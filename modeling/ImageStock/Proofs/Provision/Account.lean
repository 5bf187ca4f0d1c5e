import Mathlib.Data.List.Induction
import Mathlib.Data.List.Nodup
import ImageStock.Proofs.Provision.Scripted

/-! The tally of a run, position by position. Main statement: on a scripted runtime an image counts
as pulled where the store lacked it before the run and no earlier position has put it there, and as
present everywhere else; the pulls that succeed are those of the images that count as pulled. -/

namespace ImageStock

/-- At a position stands an image that is not held at the start, and that no earlier position has
added. `keeps` tells which images stay once they are pulled. -/
def fresh (holds keeps : Image → Bool) (images : List Image) (position : Image × Nat) : Bool :=
  !holds position.1 && (!(images.take position.2).contains position.1 || !keeps position.1)

theorem removeAll_singleton (images : List Image) (image : Image) :
    [image].removeAll images = if image ∈ images then [] else [image] := by
  by_cases member : image ∈ images <;> simp [List.removeAll, member]

theorem eraseDups_concat (images : List Image) (last : Image) :
    (images ++ [last]).eraseDups =
      images.eraseDups ++ if last ∈ images then [] else [last] := by
  rw [List.eraseDups_append, removeAll_singleton]
  split <;> simp [List.eraseDups_cons]

theorem nodup_eraseDups (images : List Image) : images.eraseDups.Nodup := by
  induction images using List.reverseRecOn with
  | nil => exact List.nodup_nil
  | append_singleton front last ih =>
      rw [eraseDups_concat]
      split
      · rwa [List.append_nil]
      · next new =>
          have apart : last ∉ front.eraseDups := mt List.mem_eraseDups.mp new
          rw [← List.concat_eq_append]
          exact List.Nodup.concat apart ih

theorem map_fst_filter_fresh (holds keeps : Image → Bool) (images : List Image)
    (kept : ∀ image ∈ images, keeps image = true) :
    (images.zipIdx.filter (fresh holds keeps images)).map Prod.fst =
      (images.filter fun image => !holds image).eraseDups := by
  induction images using List.reverseRecOn with
  | nil => rfl
  | append_singleton front last ih =>
      have before : front.zipIdx.filter (fresh holds keeps (front ++ [last])) =
          front.zipIdx.filter (fresh holds keeps front) := by
        apply List.filter_congr
        intro position member
        have inside := (List.mem_zipIdx' member).1
        rw [fresh, fresh, List.take_append_of_le_length (Nat.le_of_lt inside)]
      have stays : keeps last = true := kept last (by simp)
      rw [List.zipIdx_append, List.filter_append, List.map_append, before,
        ih fun image member => kept image (by simp [member]), List.filter_append]
      cases held : holds last with
      | true => simp [fresh, held]
      | false =>
          have new : [last].filter (fun image => !holds image) = [last] := by simp [held]
          rw [new, eraseDups_concat]
          by_cases again : last ∈ front <;> simp [fresh, held, stays, again]

def fetched? : Exchange runtime → Option Image
  | ⟨.pull image, .ok _⟩ => some image
  | _ => none

namespace Segment

def mark (segment : Segment) : Image × Bool := (segment.image, segment.pulls)

theorem tally_eq_marks {segments : List Segment}
    (sound : ∀ segment ∈ segments, segment.fault? = none) :
    tally segments = .ok {
      alreadyPresent := ((segments.map mark).filter fun entry => !entry.2).map Prod.fst
      pulled := ((segments.map mark).filter Prod.snd).map Prod.fst } := by
  induction segments with
  | nil => rfl
  | cons head tail ih =>
      have rest := ih fun segment member => sound segment (by simp [member])
      cases head with
      | found image | fetched image =>
          simp [tally, rest, outcome, Tally.record, mark, pulls, Segment.image]
      | unanswered image fault | unfetched image fault => cases sound _ List.mem_cons_self

theorem filterMap_fetched? {segments : List Segment}
    (sound : ∀ segment ∈ segments, segment.fault? = none) :
    (segments.flatMap exchanges).filterMap fetched? =
      ((segments.map mark).filter Prod.snd).map Prod.fst := by
  induction segments with
  | nil => rfl
  | cons head tail ih =>
      have rest := ih fun segment member => sound segment (by simp [member])
      rw [List.flatMap_cons, List.filterMap_append, rest]
      cases head with
      | found image | fetched image => rfl
      | unanswered image fault | unfetched image fault => cases sound _ List.mem_cons_self

end Segment

variable {σ : Type}

/-- As long as no call fails, a runtime asks for exactly what is not held, and then holds it if it
keeps it. `within` is a set of states that such calls do not leave, and `asked` are the images that
calls are about. -/
structure Machine.Fills (m : Machine runtime σ) (asked : Image → Prop) (within : σ → Prop)
    (holds : σ → Image → Bool) (keeps : Image → Bool) : Prop where
  pulls : ∀ image s, asked image → within s → (Segment.of m image s).1.fault? = none →
    (Segment.of m image s).1.pulls = !holds s image
  stays : ∀ image s, asked image → within s → (Segment.of m image s).1.fault? = none →
    within (Segment.of m image s).2
  holds : ∀ image s, asked image → within s → (Segment.of m image s).1.fault? = none →
    ∀ other, holds (Segment.of m image s).2 other =
      (holds s other || other == image && keeps other)

namespace Machine.Fills

variable {m : Machine runtime σ} {asked : Image → Prop} {within : σ → Prop}
  {holds : σ → Image → Bool} {keeps : Image → Bool}

/-- The images `front` have been dealt with since the state `s`, and those of `rest` are now. -/
theorem marks_ofEach (fills : m.Fills asked within holds keeps) {s t : σ}
    {front rest : List Image} (given : ∀ image ∈ rest, asked image) (inside : within t)
    (grown : ∀ image, holds t image = (holds s image || front.contains image && keeps image))
    (sound : ∀ segment ∈ (Segment.ofEach m rest t).1, segment.fault? = none) :
    (Segment.ofEach m rest t).1.map Segment.mark =
        (rest.zipIdx front.length).map (fun position =>
          (position.1, fresh (holds s) keeps (front ++ rest) position)) ∧
      within (Segment.ofEach m rest t).2 ∧
      ∀ image, holds (Segment.ofEach m rest t).2 image =
        (holds s image || (front ++ rest).contains image && keeps image) := by
  induction rest generalizing t front with
  | nil => exact ⟨rfl, inside, by rwa [List.append_nil]⟩
  | cons head tail ih =>
      have own : asked head := given head List.mem_cons_self
      have first : (Segment.of m head t).1.fault? = none := by
        apply sound
        simp only [Segment.ofEach]
        split <;> simp
      have split : Segment.ofEach m (head :: tail) t =
          ((Segment.of m head t).1 :: (Segment.ofEach m tail (Segment.of m head t).2).1,
            (Segment.ofEach m tail (Segment.of m head t).2).2) := by
        rw [Segment.ofEach, first]
      rw [split] at sound ⊢
      have next : ∀ image, holds (Segment.of m head t).2 image =
          (holds s image || (front ++ [head]).contains image && keeps image) := by
        intro image
        rw [fills.holds head t own inside first image, grown image, List.contains_append,
          List.contains_cons, List.contains_nil, Bool.or_false, Bool.or_assoc,
          ← Bool.and_or_distrib_right]
      obtain ⟨marks, stays, filled⟩ := ih
        (fun image member => given image (List.mem_cons_of_mem _ member))
        (fills.stays head t own inside first) next
        fun segment member => sound segment (List.mem_cons_of_mem _ member)
      rw [List.append_assoc, List.singleton_append] at marks filled
      refine ⟨?_, stays, filled⟩
      have pulled : (Segment.of m head t).1.pulls =
          fresh (holds s) keeps (front ++ head :: tail) (head, front.length) := by
        rw [fills.pulls head t own inside first, grown head, fresh, List.take_left' rfl]
        simp [Bool.not_or, Bool.not_and]
      rw [List.map_cons, List.zipIdx_cons, List.map_cons, marks, List.length_append,
        List.length_singleton, Segment.mark, Segment.image_of, pulled]

theorem provide_eq_ok (fills : m.Fills asked within holds keeps) {name : String}
    {images : List Image} (given : ∀ image ∈ images, asked image) {s : σ} {t : Tally}
    (inside : within s)
    (ended : ((provide name images).run.run m s).value = .ok t) :
    let run := (provide name images).run.run m s
    t.pulled = (images.zipIdx.filter (fresh (holds s) keeps images)).map Prod.fst ∧
      t.alreadyPresent =
        (images.zipIdx.filter fun position => !fresh (holds s) keeps images position).map
          Prod.fst ∧
      run.exchanges.filterMap fetched? = t.pulled ∧ within run.state ∧
      ∀ image, holds run.state image = (holds s image || images.contains image && keeps image) := by
  intro run
  obtain ⟨exchanges, value, state⟩ := Run.silent_eq (provide_silent m name images s)
  rw [value] at ended
  have sound := (Segment.exists_tally_iff _).mp ⟨t, ended⟩
  have start (image : Image) :
      holds s image = (holds s image || ([] : List Image).contains image && keeps image) := by
    simp
  obtain ⟨marks, stays, filled⟩ := fills.marks_ofEach given inside start sound
  rw [Segment.tally_eq_marks sound, Except.ok.injEq, marks] at ended
  rw [show run.exchanges = _ from exchanges, show run.state = _ from state,
    Segment.filterMap_fetched? sound, marks, ← ended]
  have chosen (p : Image × Bool → Bool) :
      ((images.zipIdx.map fun position =>
        (position.1, fresh (holds s) keeps images position)).filter p).map Prod.fst =
      (images.zipIdx.filter fun position =>
        p (position.1, fresh (holds s) keeps images position)).map Prod.fst := by
    rw [List.filter_map, List.map_map]
    rfl
  exact ⟨chosen Prod.snd, chosen fun entry => !entry.2, rfl, stays, filled⟩

end Machine.Fills

namespace Scripted

def State.Fetches (s : State) (images : List Image) (position : Image × Nat) : Prop :=
  s.present.contains position.1.reference = false ∧
    ((∀ earlier ∈ images.take position.2, earlier.reference ≠ position.1.reference) ∨
      (s.rule position.1.reference).keeps = false)

instance (s : State) (images : List Image) : DecidablePred (s.Fetches images) :=
  fun _ => inferInstanceAs (Decidable (_ ∧ _))

theorem fresh_eq_decide (s : State) (images : List Image) :
    fresh (fun image => s.present.contains image.reference)
        (fun image => (s.rule image.reference).keeps) images =
      fun position => decide (s.Fetches images position) := by
  funext position
  have first : (images.take position.2).contains position.1 = false ↔
      ∀ earlier ∈ images.take position.2, earlier.reference ≠ position.1.reference := by
    rw [← Bool.not_eq_true, List.contains_iff_mem, ← List.forall_mem_ne']
    simp only [Image.eq_iff, ne_eq]
  rw [Bool.eq_iff_iff, decide_eq_true_iff, fresh, State.Fetches, ← first]
  simp only [Bool.and_eq_true, Bool.or_eq_true, Bool.not_eq_true']

theorem pulls_of_machine {image : Image} {s : State}
    (passed : (Segment.of machine image s).1.fault? = none) :
    (Segment.of machine image s).1.pulls = !s.present.contains image.reference := by
  cases asked : (s.rule image.reference).queryFault with
  | some fault => simp [Segment.of, machine, query, asked, Segment.fault?] at passed
  | none =>
      cases present : s.present.contains image.reference with
      | true => simp [Segment.of, machine, query, asked, present, Segment.pulls]
      | false =>
          cases pulled : (s.rule image.reference).pullFault with
          | some fault =>
              simp [Segment.of, machine, query, pull, asked, present, pulled,
                Segment.fault?] at passed
          | none => simp [Segment.of, machine, query, pull, asked, present, pulled, Segment.pulls]

theorem machine_fills (s : State) :
    machine.Fills (fun _ => True) (fun t => t.rules = s.rules)
      (fun t image => t.present.contains image.reference)
      (fun image => (s.rule image.reference).keeps) where
  pulls image t _ _ passed := pulls_of_machine passed
  stays image t _ same passed := by
    obtain ⟨fault, state⟩ := of_machine image t
    rw [state, if_pos (fault ▸ passed), State.rules_settle, same]
  holds image t _ same passed other := by
    obtain ⟨fault, state⟩ := of_machine image t
    have rule : t.rule other.reference = s.rule other.reference := by
      rw [State.rule, same, State.rule]
    rw [state, if_pos (fault ▸ passed), Bool.eq_iff_iff, State.contains_settle, rule,
      Bool.or_eq_true, Bool.and_eq_true, beq_iff_eq, Image.eq_iff,
      eq_comm (a := image.reference)]

/-- Every position counts once, in the order of the images. -/
theorem provide_tally (name : String) (images : List Image) (s : State) (t : Tally) :
    let run := (provide name images).run.run machine s
    run.value = .ok t →
      t.pulled = (images.zipIdx.filter fun position => s.Fetches images position).map Prod.fst ∧
      t.alreadyPresent =
        (images.zipIdx.filter fun position => ¬ s.Fetches images position).map Prod.fst ∧
      t.total = images.length ∧
      ((∀ image ∈ images, (s.rule image.reference).keeps = true) →
        t.pulled.Nodup ∧ t.pulled =
          (images.filter fun image => !s.present.contains image.reference).eraseDups) ∧
      run.exchanges.filterMap fetched? = t.pulled := by
  intro run ended
  obtain ⟨pulled, present, calls, -, -⟩ :=
    (machine_fills s).provide_eq_ok (fun _ _ => trivial) rfl ended
  have first : (∀ image ∈ images, (s.rule image.reference).keeps = true) →
      t.pulled = (images.filter fun image => !s.present.contains image.reference).eraseDups := by
    intro kept
    rw [pulled, map_fst_filter_fresh _ _ images kept]
  rw [fresh_eq_decide] at pulled present
  refine ⟨pulled, ?_, ?_, ?_, calls⟩
  · simp only [present, decide_not]
  · have both := images.zipIdx.length_eq_length_filter_add
      fun position => decide (s.Fetches images position)
    rw [List.length_zipIdx] at both
    rw [Tally.total, pulled, present, List.length_map, List.length_map, both, Nat.add_comm]
  · intro kept
    have eq := first kept
    exact ⟨eq ▸ nodup_eraseDups _, eq⟩

/-- An image given twice is pulled again only where the first pull did not put it into the store. -/
theorem provide_tally_repeated :
    let a : Image := ⟨"a", by decide⟩
    let b : Image := ⟨"b", by decide⟩
    let s : State := { present := ⟨["b"]⟩ }
    let lossy := s.setRule "a" { keeps := false }
    let run (s : State) := (provide "docker" [a, b, a]).run.run machine s
    (∃ t, (run s).value = .ok t ∧ t.total = 3 ∧ t.pulled.Nodup ∧ t.pulled = [a, a].eraseDups) ∧
      ∃ t, (run lossy).value = .ok t ∧
        t.pulled = ([(a, 0), (b, 1), (a, 2)].filter
          fun position => lossy.Fetches [a, b, a] position).map Prod.fst ∧
        (run lossy).exchanges.filterMap fetched? = t.pulled := by
  intro a b s lossy run
  have keeps : ∀ image ∈ [a, b, a], (s.rule image.reference).keeps = true := fun _ _ => rfl
  have ended : (run s).value = .ok ⟨[b, a], [a]⟩ := by decide +kernel
  obtain ⟨-, -, total, first, -⟩ := provide_tally "docker" [a, b, a] s _ ended
  obtain ⟨distinct, same⟩ := first keeps
  obtain ⟨pulled, -, -, -, calls⟩ := provide_tally "docker" [a, b, a] lossy ⟨[b], [a, a]⟩ rfl
  exact ⟨⟨_, ended, total, distinct, same⟩, ⟨_, rfl, pulled, calls⟩⟩

end Scripted

end ImageStock
