import ImageStock.Proofs.Catalog
import ImageStock.Proofs.Environment
import ImageStock.Proofs.ProjectFile.Images
import ImageStock.Proofs.Program.Commands

/-! Catalogs as image sections. Main statement: a catalog comes back from the section that spells it
out exactly if it has an item; and every catalog that settings can have does, so that there is
always an image to list. -/

namespace ImageStock

namespace ProjectFile

theorem toItem_ofItem (item : Item) : (Entry.ofItem item).toItem = .ok item := by
  obtain ⟨name, overrideKey, origin⟩ := item
  cases origin <;> rfl

theorem mapM_toItem_ofItem (items : List Item) :
    (items.map Entry.ofItem).mapM Entry.toItem = .ok items := by
  induction items with
  | nil => rfl
  | cons item items ih =>
      rw [List.map_cons, List.mapM_cons, toItem_ofItem, ok_bind, ih]
      rfl

theorem items_ne_nil_of_toCatalog {images : Images} {catalog : Catalog}
    (accepted : images.toCatalog = .ok catalog) : catalog.items ≠ [] := by
  by_cases given : images.entries = []
  · rw [toCatalog_of_no_entries given] at accepted
    cases accepted
    exact List.cons_ne_nil _ _
  · obtain ⟨described, -⟩ := describes_of_toCatalog given accepted
    intro none
    rw [none, List.forall₂_nil_right_iff] at described
    exact given described

theorem toCatalog_ofCatalog {catalog : Catalog} (items : catalog.items ≠ []) :
    (Images.ofCatalog catalog).toCatalog = .ok catalog := by
  have given : (Images.ofCatalog catalog).entries ≠ [] :=
    fun none => items (List.map_eq_nil_iff.mp none)
  have read : (Images.ofCatalog catalog).entries.mapM Entry.toItem = .ok catalog.items :=
    mapM_toItem_ofItem catalog.items
  rw [toCatalog_of_entries given, read]
  rfl

theorem toCatalog_ofCatalog_iff (catalog : Catalog) :
    (Images.ofCatalog catalog).toCatalog = .ok catalog ↔ catalog.items ≠ [] :=
  ⟨items_ne_nil_of_toCatalog, toCatalog_ofCatalog⟩

end ProjectFile

theorem Settings.items_ne_nil_of_merge {flag env : Option String} {project : Option ProjectFile}
    {user : UserFile} {settings : Settings} (merged : merge flag env project user = .ok settings) :
    settings.catalog.items ≠ [] := by
  rw [merge_eq] at merged
  cases brought : catalogOf project with
  | error failure =>
      rw [brought] at merged
      cases merged
  | ok catalog =>
      rw [brought] at merged
      cases merged
      rw [catalogOf] at brought
      split at brought
      · exact ProjectFile.items_ne_nil_of_toCatalog brought
      · cases brought
        exact List.cons_ne_nil _ _

theorem Catalog.length_of_resolve {catalog : Catalog} {env : Lookup} {choices : List Choice}
    (resolved : catalog.resolve env = .ok choices) : choices.length = catalog.items.length := by
  rw [resolve_eq_bind, bind_eq_ok] at resolved
  obtain ⟨version, -, chosen⟩ := resolved
  exact (forall₂_of_mapM_eq_ok chosen).length_eq.symm

theorem Text.Grid.head?_draw (header : Row) (rows : List Row) :
    (draw header rows).head? = some '╭' := rfl

theorem Inventory.render_ne_nothing {inventory : List (Choice × Bool)} (shown : inventory ≠ []) :
    render inventory ≠ render [] := by
  obtain ⟨entry, others, rfl⟩ := List.exists_cons_of_ne_nil shown
  intro same
  have corner : (render (entry :: others)).toList.head? = some '╭' := by
    rw [render, String.toList_ofList, Text.Grid.head?_draw]
    exact List.cons_ne_nil entry others
  rw [same] at corner
  exact absurd corner (by decide)

namespace Settings

variable {σ α : Type} {settings : Settings} {env : Lookup}

theorem printed_prepare_bind (settings : Settings) (env : Lookup)
    (task : Plan → Attempt shell Failure α) (m : Machine shell σ) (s : σ) :
    let printed := ((settings.prepare env >>= task).run.run m s).printed
    printed = [] ∨ ∃ plan, settings.plan env = .ok plan ∧
      ∃ t, printed = ((task plan).run.run m t).printed := by
  intro printed
  cases planned : settings.plan env with
  | error failure =>
      have prepared := prepare_unplanned (m := m) (s := s) planned
      left
      simp only [printed]
      rw [Attempt.run_bind_error m (congrArg Run.value prepared), prepared]
      rfl
  | ok plan =>
      have prepared := prepare_planned (m := m) (s := s) planned
      cases started : (m.answer plan.engine.versionCommand s).1 with
      | error error =>
          rw [started] at prepared
          left
          simp only [printed]
          rw [Attempt.run_bind_error m (congrArg Run.value prepared), prepared]
          rfl
      | ok ending =>
          rw [started] at prepared
          right
          refine ⟨plan, rfl, (m.answer plan.engine.versionCommand s).2, ?_⟩
          simp only [printed]
          rw [Attempt.run_bind_ok m (congrArg Run.value prepared), Run.printed_following, prepared]
          rfl

theorem printed_list {m : Machine shell σ} {s : σ} {text : String}
    (printed : text ∈ ((settings.list env).run.run m s).printed) :
    ∃ inventory : List (Choice × Bool), inventory.length = settings.catalog.items.length ∧
      text = Inventory.render inventory := by
  rcases printed_prepare_bind settings env Plan.list m s with nothing | ⟨plan, planned, t, same⟩
  · rw [list, nothing] at printed
    cases printed
  rw [list, same] at printed
  obtain ⟨endings, ⟨whole, -, -, table⟩ | ⟨_, _, -, -, -, nothing⟩⟩ := plan.lists m t
  · rw [table, List.mem_singleton] at printed
    obtain ⟨choices, resolved, result⟩ := bind_eq_ok.mp planned
    obtain ⟨engine, -, result⟩ := bind_eq_ok.mp result
    cases result
    have rows := congrArg List.length whole
    rw [List.length_map] at rows
    refine ⟨_, ?_, printed⟩
    rw [List.length_map, ← Catalog.length_of_resolve resolved, rows]
  · rw [nothing] at printed
    cases printed

end Settings

open ProjectFile (Images)

/-- A catalog survives being written as an image section exactly if it has an item, and so do all
catalogs that come from a section or into settings; with these there is always an image to list. -/
theorem catalog_survives_export :
    (∀ catalog, (Images.ofCatalog catalog).toCatalog = .ok catalog ↔ catalog.items ≠ []) ∧
    (∀ (images : Images) catalog, images.toCatalog = .ok catalog →
      catalog.items ≠ [] ∧ (Images.ofCatalog catalog).toCatalog = .ok catalog) ∧
    ∀ flag env project user settings, Settings.merge flag env project user = .ok settings →
      settings.catalog.items ≠ [] ∧
      (Images.ofCatalog settings.catalog).toCatalog = .ok settings.catalog ∧
      ∀ lookup,
        (∀ choices, settings.catalog.resolve lookup = .ok choices → choices ≠ []) ∧
        ∀ {σ : Type} (m : Machine shell σ) (s : σ),
          "No images configured.\n" ∉ ((settings.list lookup).run.run m s).printed := by
  refine ⟨ProjectFile.toCatalog_ofCatalog_iff, ?_, ?_⟩
  · intro images catalog accepted
    have items := ProjectFile.items_ne_nil_of_toCatalog accepted
    exact ⟨items, ProjectFile.toCatalog_ofCatalog items⟩
  · intro flag env project user settings merged
    have items := Settings.items_ne_nil_of_merge merged
    have some : settings.catalog.items.length ≠ 0 := mt List.length_eq_zero_iff.mp items
    refine ⟨items, ProjectFile.toCatalog_ofCatalog items, ?_⟩
    intro lookup
    constructor
    · rintro choices resolved rfl
      exact some (Catalog.length_of_resolve resolved).symm
    · intro σ m s printed
      obtain ⟨inventory, rows, text⟩ := Settings.printed_list printed
      refine Inventory.render_ne_nothing ?_ text.symm
      rintro rfl
      exact some rows.symm

end ImageStock
