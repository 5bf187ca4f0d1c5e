import ImageStock.Proofs.Exchange
import ImageStock.Provision

/-! The calls of a run on any runtime, cut into one segment for each image that is dealt with.
Main statements: the calls of a run are those segments for a prefix of the images, only the last
segment can fail, and the result of the run is read off the segments. -/

namespace ImageStock

/-- What a runtime is asked for one image, by how that ended. -/
inductive Segment where
  | found (image : Image)
  | fetched (image : Image)
  | unanswered (image : Image) (fault : Fault)
  | unfetched (image : Image) (fault : Fault)
  deriving DecidableEq, Repr

namespace Segment

def image : Segment → Image
  | found image | fetched image | unanswered image _ | unfetched image _ => image

def pulls : Segment → Bool
  | found _ | unanswered .. => false
  | fetched _ | unfetched .. => true

def exchanges : Segment → List (Exchange runtime)
  | found image => [⟨.query image, .ok true⟩]
  | fetched image => [⟨.query image, .ok false⟩, ⟨.pull image, .ok ()⟩]
  | unanswered image fault => [⟨.query image, .error fault⟩]
  | unfetched image fault => [⟨.query image, .ok false⟩, ⟨.pull image, .error fault⟩]

def outcome : Segment → Except Fault Outcome
  | found _ => .ok .alreadyPresent
  | fetched _ => .ok .pulled
  | unanswered _ fault | unfetched _ fault => .error fault

def fault? : Segment → Option Fault
  | found _ | fetched _ => none
  | unanswered _ fault | unfetched _ fault => some fault

def tally : List Segment → Except Fault Tally
  | [] => .ok {}
  | segment :: segments =>
    match segment.outcome, tally segments with
    | .ok outcome, .ok t => .ok (t.record segment.image outcome)
    | .error fault, _ => .error fault
    | _, .error fault => .error fault

variable {σ : Type}

def of (m : Machine runtime σ) (image : Image) (s : σ) : Segment × σ :=
  match m.answer (.query image) s with
  | (.error fault, s) => (unanswered image fault, s)
  | (.ok true, s) => (found image, s)
  | (.ok false, s) =>
    match m.answer (.pull image) s with
    | (.error fault, s) => (unfetched image fault, s)
    | (.ok (), s) => (fetched image, s)

def ofEach (m : Machine runtime σ) : List Image → σ → List Segment × σ
  | [], s => ([], s)
  | image :: images, s =>
    let first := of m image s
    match first.1.fault? with
    | some _ => ([first.1], first.2)
    | none =>
      let rest := ofEach m images first.2
      (first.1 :: rest.1, rest.2)

theorem image_of (m : Machine runtime σ) (image : Image) (s : σ) :
    (of m image s).1.image = image := by
  unfold of
  split
  · rfl
  · rfl
  · split <;> rfl

theorem outcome_of_sound {segment : Segment} (sound : segment.fault? = none) :
    ∃ outcome, segment.outcome = .ok outcome := by
  cases segment with
  | found image => exact ⟨_, rfl⟩
  | fetched image => exact ⟨_, rfl⟩
  | unanswered image fault => cases sound
  | unfetched image fault => cases sound

theorem outcome_of_fault {segment : Segment} {fault : Fault}
    (failed : segment.fault? = some fault) : segment.outcome = .error fault := by
  cases segment <;> cases failed <;> rfl

theorem tally_of_sound {segments : List Segment}
    (sound : ∀ segment ∈ segments, segment.fault? = none) : ∃ t, tally segments = .ok t := by
  induction segments with
  | nil => exact ⟨_, rfl⟩
  | cons head tail ih =>
      obtain ⟨outcome, first⟩ := outcome_of_sound (sound head (by simp))
      obtain ⟨t, rest⟩ := ih (by intro segment member; exact sound segment (by simp [member]))
      exact ⟨t.record head.image outcome, by simp only [tally, first, rest]⟩

theorem tally_of_fault {segments : List Segment} {fault : Fault}
    (failed : segments.findSome? fault? = some fault) : tally segments = .error fault := by
  induction segments with
  | nil => cases failed
  | cons head tail ih =>
      rw [List.findSome?_cons] at failed
      cases first : head.fault? with
      | some other =>
          rw [first] at failed
          cases failed
          simp only [tally, outcome_of_fault first]
      | none =>
          rw [first] at failed
          obtain ⟨outcome, ok⟩ := outcome_of_sound first
          simp only [tally, ok, ih failed]

theorem exists_tally_iff (segments : List Segment) :
    (∃ t, tally segments = .ok t) ↔ ∀ segment ∈ segments, segment.fault? = none := by
  refine ⟨?_, tally_of_sound⟩
  rintro ⟨t, ok⟩
  rw [← List.findSome?_eq_none_iff]
  cases failed : segments.findSome? fault? with
  | none => rfl
  | some fault =>
      rw [tally_of_fault failed] at ok
      cases ok

theorem tally_eq_error_iff (segments : List Segment) (fault : Fault) :
    tally segments = .error fault ↔ segments.findSome? fault? = some fault := by
  refine ⟨?_, tally_of_fault⟩
  intro failed
  cases first : segments.findSome? fault? with
  | none =>
      obtain ⟨t, ok⟩ := tally_of_sound (List.findSome?_eq_none_iff.mp first)
      rw [ok] at failed
      cases failed
  | some other =>
      rw [tally_of_fault first] at failed
      cases failed
      rfl

theorem findSome?_eq_of_last {segments : List Segment}
    (sound : ∀ segment ∈ segments.dropLast, segment.fault? = none) :
    segments.findSome? fault? = segments.getLast?.bind fault? := by
  rcases List.eq_nil_or_concat segments with rfl | ⟨front, last, rfl⟩
  · rfl
  · rw [List.concat_eq_append] at sound ⊢
    rw [List.dropLast_concat] at sound
    rw [List.findSome?_append, List.findSome?_eq_none_iff.mpr sound, List.getLast?_concat]
    simp

/-- The segments are for a prefix of the images, which is all of them if none failed, and only the
last can fail. -/
theorem ofEach_spec (m : Machine runtime σ) (images : List Image) (s : σ) :
    (ofEach m images s).1.map image <+: images ∧
      (∀ segment ∈ (ofEach m images s).1.dropLast, segment.fault? = none) ∧
      ((∀ segment ∈ (ofEach m images s).1, segment.fault? = none) →
        (ofEach m images s).1.map image = images) := by
  induction images generalizing s with
  | nil => simp [ofEach]
  | cons head tail ih =>
      simp only [ofEach]
      split
      · next fault failed => simp [image_of, failed]
      · next sound =>
          obtain ⟨part, front, whole⟩ := ih (of m head s).2
          refine ⟨?_, ?_, ?_⟩
          · rw [List.map_cons, image_of]
            exact (List.prefix_cons_inj head).mpr part
          · intro segment member
            cases rest : (ofEach m tail (of m head s).2).1 with
            | nil => simp [rest] at member
            | cons second others =>
                rw [rest] at front
                rw [rest, List.dropLast_cons_cons] at member
                rcases List.mem_cons.mp member with rfl | later
                · exact sound
                · exact front segment later
          · intro all
            rw [List.map_cons, image_of, whole fun segment member => all segment (by simp [member])]

/-- A pull comes right after the answer that its image is absent. -/
theorem query_before_pull {segments : List Segment} {front back : List (Exchange runtime)}
    {image : Image} {answer : Except Fault Unit}
    (split : segments.flatMap exchanges = front ++ ⟨.pull image, answer⟩ :: back) :
    ∃ earlier, front = earlier ++ [⟨.query image, .ok false⟩] := by
  induction segments generalizing front with
  | nil => simp at split
  | cons head tail ih =>
      have later (first rest : List (Exchange runtime)) (whole : front = first ++ rest)
          (split : tail.flatMap exchanges = rest ++ ⟨.pull image, answer⟩ :: back) :
          ∃ earlier, front = earlier ++ [⟨.query image, .ok false⟩] := by
        obtain ⟨earlier, found⟩ := ih split
        exact ⟨first ++ earlier, by rw [whole, found, List.append_assoc]⟩
      rw [List.flatMap_cons] at split
      cases head with
      | found other | unanswered other fault =>
          cases front with
          | nil => simp [exchanges] at split
          | cons first front =>
              simp only [exchanges, List.cons_append, List.nil_append, List.cons.injEq] at split
              exact later [first] front rfl split.2
      | fetched other | unfetched other fault =>
          rcases front with _ | ⟨first, _ | ⟨second, front⟩⟩
          · simp [exchanges] at split
          · simp only [exchanges, List.cons_append, List.nil_append, List.cons.injEq] at split
            obtain ⟨rfl, same, -⟩ := split
            cases same
            exact ⟨[], rfl⟩
          · simp only [exchanges, List.cons_append, List.nil_append, List.cons.injEq] at split
            exact later [first, second] front rfl split.2.2

theorem count_pull_le (segments : List Segment) (wanted : Image) :
    ((segments.flatMap exchanges).map Sigma.fst).count (.pull wanted) ≤
      (segments.map image).count wanted := by
  induction segments with
  | nil => simp
  | cons head tail ih =>
      rw [List.flatMap_cons, List.map_append, List.count_append, List.map_cons, List.count_cons]
      have first : (head.exchanges.map Sigma.fst).count (.pull wanted) ≤
          if head.image == wanted then 1 else 0 := by
        cases head <;> simp [exchanges, image, List.count_cons]
      omega

theorem image_of_mem_exchanges {segment : Segment} {exchange : Exchange runtime}
    (member : exchange ∈ segment.exchanges) : exchange.1.image = segment.image := by
  cases segment with
  | found image | unanswered image fault =>
      rw [exchanges, List.mem_singleton] at member
      rw [member]
      rfl
  | fetched image | unfetched image fault =>
      rw [exchanges, List.mem_cons, List.mem_singleton] at member
      rcases member with rfl | rfl <;> rfl

theorem exchanges_of_fault {segment : Segment} {fault : Fault}
    (failed : segment.fault? = some fault) :
    ∃ earlier, segment.exchanges = earlier ++ [⟨.query segment.image, .error fault⟩] ∨
      segment.exchanges = earlier ++ [⟨.pull segment.image, .error fault⟩] := by
  cases segment with
  | found image | fetched image => cases failed
  | unanswered image fault =>
      cases failed
      exact ⟨[], .inl rfl⟩
  | unfetched image fault =>
      cases failed
      exact ⟨[⟨.query image, .ok false⟩], .inr rfl⟩

end Segment

variable {σ : Type}

theorem ensure_eq (name : String) (image : Image) :
    (ensure name image).run = .ask (.query image) fun
      | .error fault => .done (.error fault)
      | .ok true => .tell (.notice (.alreadyPresent image)) (.done (.ok .alreadyPresent))
      | .ok false => .tell (.notice (.pulling image name)) <| .ask (.pull image) fun
        | .error fault => .done (.error fault)
        | .ok () => .tell (.notice (.pulled image)) (.done (.ok .pulled)) := by
  show Dialogue.ask _ _ = Dialogue.ask _ _
  congr 1
  funext answer
  rcases answer with fault | _ | _
  · rfl
  · show Dialogue.tell _ (Dialogue.ask _ _) = Dialogue.tell _ (Dialogue.ask _ _)
    congr 2
    funext answer
    cases answer <;> rfl
  · rfl

theorem ensure_silent (m : Machine runtime σ) (name : String) (image : Image) (s : σ) :
    ((ensure name image).run.run m s).silent =
      ((Segment.of m image s).1.exchanges, (Segment.of m image s).1.outcome,
        (Segment.of m image s).2) := by
  rw [ensure_eq]
  rcases asked : m.answer (.query image) s with ⟨fault | _ | _, t⟩
  · simp only [Dialogue.run, Segment.of, asked]
    rfl
  · rcases fetched : m.answer (.pull image) t with ⟨fault | _, u⟩ <;>
      simp only [Dialogue.run, Segment.of, asked, fetched] <;> rfl
  · simp only [Dialogue.run, Segment.of, asked]
    rfl

theorem ensureEach_silent (m : Machine runtime σ) (name : String) (images : List Image) (s : σ) :
    ((ensureEach name images).run.run m s).silent =
      ((Segment.ofEach m images s).1.flatMap Segment.exchanges,
        Segment.tally (Segment.ofEach m images s).1, (Segment.ofEach m images s).2) := by
  induction images generalizing s with
  | nil => rfl
  | cons head tail ih =>
      have first := ensure_silent m name head s
      simp only [ensureEach, Segment.ofEach]
      cases ended : (Segment.of m head s).1.fault? with
      | some fault =>
          rw [Segment.outcome_of_fault ended] at first
          simp only [Segment.tally, Segment.outcome_of_fault ended, List.flatMap_cons,
            List.flatMap_nil, List.append_nil]
          exact Attempt.silent_bind_error m first
      | none =>
          obtain ⟨outcome, ok⟩ := Segment.outcome_of_sound ended
          rw [ok] at first
          have rest := ih (Segment.of m head s).2
          simp only [List.flatMap_cons, Segment.tally, ok, Segment.image_of]
          refine Attempt.silent_bind_ok m first ?_
          cases result : Segment.tally (Segment.ofEach m tail (Segment.of m head s).2).1 with
          | error fault =>
              rw [result] at rest
              exact Attempt.silent_bind_error m rest
          | ok t =>
              rw [result] at rest
              rw [← List.append_nil (List.flatMap _ _)]
              exact Attempt.silent_bind_ok m rest (Attempt.silent_pure m _ _)

theorem provide_silent (m : Machine runtime σ) (name : String) (images : List Image) (s : σ) :
    ((provide name images).run.run m s).silent =
      ((Segment.ofEach m images s).1.flatMap Segment.exchanges,
        Segment.tally (Segment.ofEach m images s).1, (Segment.ofEach m images s).2) := by
  have each := ensureEach_silent m name images s
  rw [← List.nil_append (List.flatMap _ _)]
  refine Attempt.silent_bind_ok m (Attempt.silent_notice m .started s) ?_
  cases result : Segment.tally (Segment.ofEach m images s).1 with
  | error fault =>
      rw [result] at each
      exact Attempt.silent_bind_error m each
  | ok t =>
      rw [result] at each
      rw [← List.append_nil (List.flatMap _ _)]
      refine Attempt.silent_bind_ok m each ?_
      exact Attempt.silent_bind_ok m (Attempt.silent_notice m _ _) (Attempt.silent_pure m t _)

variable {m : Machine runtime σ} {name : String} {images : List Image} {s : σ}

theorem image_of_mem_requests {call : Call}
    (asked : call ∈ ((provide name images).run.run m s).requests) : call.image ∈ images := by
  obtain ⟨exchanges, -, -⟩ := Run.silent_eq (provide_silent m name images s)
  obtain ⟨part, -, -⟩ := Segment.ofEach_spec m images s
  rw [Run.requests_eq_map_exchanges, exchanges, List.mem_map] at asked
  obtain ⟨exchange, member, rfl⟩ := asked
  obtain ⟨segment, given, inside⟩ := List.mem_flatMap.mp member
  rw [Segment.image_of_mem_exchanges inside]
  exact part.subset (List.mem_map_of_mem given)

theorem exchanges_of_provide_eq_error {fault : Fault}
    (failed : ((provide name images).run.run m s).value = .error fault) :
    ∃ image ∈ images, ∃ earlier,
      ((provide name images).run.run m s).exchanges =
          earlier ++ [⟨.query image, .error fault⟩] ∨
        ((provide name images).run.run m s).exchanges =
          earlier ++ [⟨.pull image, .error fault⟩] := by
  obtain ⟨exchanges, value, -⟩ := Run.silent_eq (provide_silent m name images s)
  obtain ⟨part, front, -⟩ := Segment.ofEach_spec m images s
  rw [value, Segment.tally_eq_error_iff, Segment.findSome?_eq_of_last front,
    Option.bind_eq_some_iff] at failed
  obtain ⟨last, ends, fault⟩ := failed
  obtain ⟨others, split⟩ := List.getLast?_eq_some_iff.mp ends
  have given : last.image ∈ images :=
    part.subset (List.mem_map_of_mem (by simp [split]))
  obtain ⟨earlier, asked⟩ := Segment.exchanges_of_fault fault
  rw [exchanges, split, List.flatMap_append, List.flatMap_singleton]
  refine ⟨last.image, given, others.flatMap Segment.exchanges ++ earlier, ?_⟩
  rcases asked with query | pull
  · left
    rw [query, List.append_assoc]
  · right
    rw [pull, List.append_assoc]

end ImageStock
