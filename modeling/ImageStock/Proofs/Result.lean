import Mathlib.Data.List.Forall2

/-! Results of sequences that may fail: a sequence has a result exactly where each of its steps has
one, and the failure of a list of steps is that of the first step that fails. -/

namespace ImageStock

variable {ε α β : Type}

theorem ok_bind (a : α) (next : α → Except ε β) : (Except.ok a >>= next) = next a := rfl

theorem pure_eq_ok (a : α) : (pure a : Except ε α) = .ok a := rfl

theorem bind_eq_ok {r : Except ε α} {next : α → Except ε β} {b : β} :
    (r >>= next) = .ok b ↔ ∃ a, r = .ok a ∧ next a = .ok b := by
  cases r with
  | error e =>
      constructor
      · intro eq
        cases eq
      · rintro ⟨a, eq, -⟩
        cases eq
  | ok a =>
      constructor
      · intro eq
        exact ⟨a, rfl, eq⟩
      · rintro ⟨other, same, eq⟩
        cases same
        exact eq

theorem bind_eq_error {r : Except ε α} {next : α → Except ε β} {e : ε} :
    (r >>= next) = .error e ↔ r = .error e ∨ ∃ a, r = .ok a ∧ next a = .error e := by
  cases r with
  | error other =>
      constructor
      · intro eq
        cases eq
        exact .inl rfl
      · rintro (eq | ⟨a, impossible, -⟩)
        · cases eq
          rfl
        · cases impossible
  | ok a =>
      constructor
      · intro eq
        exact .inr ⟨a, rfl, eq⟩
      · rintro (impossible | ⟨other, same, eq⟩)
        · cases impossible
        · cases same
          exact eq

theorem exists_eq_error_iff {r : Except ε α} : (∃ e, r = .error e) ↔ ¬ ∃ a, r = .ok a := by
  cases r with
  | error e => simp
  | ok a => simp

theorem toOption_eq_some {r : Except ε α} {a : α} : r.toOption = some a ↔ r = .ok a := by
  cases r with
  | error e => simp [Except.toOption]
  | ok other => simp [Except.toOption]

theorem mapError_eq_error {ε' : Type} {r : Except ε α} {g : ε → ε'} {e : ε'} :
    r.mapError g = .error e ↔ ∃ inner, r = .error inner ∧ g inner = e := by
  cases r with
  | error inner => simp [Except.mapError]
  | ok a => simp [Except.mapError]

theorem mapError_eq_ok {ε' : Type} {r : Except ε α} {g : ε → ε'} {a : α} :
    r.mapError g = .ok a ↔ r = .ok a := by
  cases r with
  | error inner => simp [Except.mapError]
  | ok other => simp [Except.mapError]

theorem map_eq_error {r : Except ε α} {g : α → β} {e : ε} :
    r.map g = .error e ↔ r = .error e := by
  cases r with
  | error other => simp [Except.map]
  | ok a => simp [Except.map]

theorem exists_mem_of_forall₂ {related : α → β → Prop} {as : List α} {bs : List β}
    (each : List.Forall₂ related as bs) {a : α} (member : a ∈ as) : ∃ b ∈ bs, related a b := by
  induction each with
  | nil => cases member
  | @cons head other as bs first rest ih =>
      rcases List.mem_cons.mp member with rfl | later
      · exact ⟨other, by simp, first⟩
      · obtain ⟨b, inside, found⟩ := ih later
        exact ⟨b, by simp [inside], found⟩

variable {f : α → Except ε β}

theorem exists_of_mapM_eq_error {as : List α} {e : ε} (failed : as.mapM f = .error e) :
    ∃ a ∈ as, f a = .error e := by
  induction as with
  | nil => cases failed
  | cons a as ih =>
      rw [List.mapM_cons, bind_eq_error] at failed
      rcases failed with first | ⟨b, -, failed⟩
      · exact ⟨a, by simp, first⟩
      · rcases bind_eq_error.mp failed with later | ⟨bs, -, impossible⟩
        · obtain ⟨other, member, failed⟩ := ih later
          exact ⟨other, by simp [member], failed⟩
        · cases impossible

theorem mapM_congr {g : α → Except ε β} {as : List α} (same : ∀ a ∈ as, f a = g a) :
    as.mapM f = as.mapM g := by
  induction as with
  | nil => rfl
  | cons a as ih =>
      have rest := ih (by intro later member; exact same later (by simp [member]))
      rw [List.mapM_cons, List.mapM_cons, same a (by simp), rest]

theorem forall₂_of_mapM_eq_ok {as : List α} {bs : List β} (mapped : as.mapM f = .ok bs) :
    List.Forall₂ (fun a b => f a = .ok b) as bs := by
  induction as generalizing bs with
  | nil =>
      cases mapped
      exact .nil
  | cons a as ih =>
      rw [List.mapM_cons, bind_eq_ok] at mapped
      obtain ⟨b, first, mapped⟩ := mapped
      rw [bind_eq_ok] at mapped
      obtain ⟨rest, later, same⟩ := mapped
      cases same
      exact .cons first (ih later)

theorem mapM_eq_error {front back : List α} {a : α} {e : ε}
    (passed : ∀ earlier ∈ front, ∃ b, f earlier = .ok b) (failed : f a = .error e) :
    (front ++ a :: back).mapM f = .error e := by
  induction front with
  | nil =>
      rw [List.nil_append, List.mapM_cons, failed]
      rfl
  | cons head front ih =>
      obtain ⟨b, first⟩ := passed head (by simp)
      have rest := ih (by intro earlier member; exact passed earlier (by simp [member]))
      rw [List.cons_append, List.mapM_cons, first, ok_bind, rest]
      rfl

end ImageStock
