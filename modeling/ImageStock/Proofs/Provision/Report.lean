import ImageStock.Proofs.Provision.Account
import ImageStock.Proofs.Within

/-! What a run reports. Main statement: its log is told by its calls and the answers to them, in its
texts too, and the numbers at the end are those of the images that the log says were pulled and were
there already. -/

namespace ImageStock

variable {σ α β ε : Type} {m : Machine runtime σ} {name : String} {s : σ}

def Event.ofNotice {I : Interface} (n : Notice) : Event I := .told (.notice n)

def announced (name : String) : Exchange runtime → List Notice
  | ⟨.query _, _⟩ => []
  | ⟨.pull image, _⟩ => [.pulling image name]

def confirmed : Exchange runtime → List Notice
  | ⟨.query image, .ok true⟩ => [.alreadyPresent image]
  | ⟨.query _, .ok false⟩ | ⟨.query _, .error _⟩ | ⟨.pull _, .error _⟩ => []
  | ⟨.pull image, .ok _⟩ => [.pulled image]

def reported (name : String) (x : Exchange runtime) : List (Event runtime) :=
  (announced name x).map .ofNotice ++ .asked x.1 x.2 :: (confirmed x).map .ofNotice

/-- Nothing is reported in a run but what belongs to its calls. -/
def Run.Reports (name : String) (r : Run runtime σ α) : Prop :=
  r.events = r.exchanges.flatMap (reported name)

theorem Run.Reports.following {r : Run runtime σ α} (reports : r.Reports name)
    {first : Run runtime σ β} (before : first.Reports name) :
    (r.following first.events).Reports name := by
  have whole : (r.following first.events).exchanges = first.exchanges ++ r.exchanges :=
    exchanges_following r first.events
  rw [Reports, whole, List.flatMap_append, ← before, ← reports]
  rfl

theorem reports_bind {d : Attempt runtime ε α} {f : α → Attempt runtime ε β}
    (first : (d.run.run m s).Reports name)
    (rest : ∀ a t, ((f a).run.run m t).Reports name) : ((d >>= f).run.run m s).Reports name := by
  cases ended : (d.run.run m s).value with
  | error e =>
      rw [Attempt.run_bind_error m ended]
      exact first
  | ok a =>
      rw [Attempt.run_bind_ok m ended]
      exact (rest a _).following first

theorem reports_ensure (m : Machine runtime σ) (name : String) (image : Image) (s : σ) :
    ((ensure name image).run.run m s).Reports name := by
  rw [ensure_eq, Run.Reports]
  rcases asked : m.answer (.query image) s with ⟨fault | _ | _, t⟩
  · simp only [Dialogue.run, asked]
    rfl
  · rcases fetched : m.answer (.pull image) t with ⟨fault | _, u⟩ <;>
      simp only [Dialogue.run, asked, fetched] <;> rfl
  · simp only [Dialogue.run, asked]
    rfl

theorem reports_ensureEach (m : Machine runtime σ) (name : String) (images : List Image) (s : σ) :
    ((ensureEach name images).run.run m s).Reports name := by
  induction images generalizing s with
  | nil => rfl
  | cons image images ih =>
      apply reports_bind (reports_ensure m name image s)
      intro outcome t
      apply reports_bind (ih t)
      intro tally u
      rfl

def Event.notice? {I : Interface} : Event I → Option Notice
  | .told (.notice n) => some n
  | .told (.printed _) | .told (.warned _) | .asked .. => none

theorem Run.notices_eq {I : Interface} (r : Run I σ α) :
    r.notices = r.events.filterMap Event.notice? := by
  rw [notices, utterances, List.filterMap_filterMap]
  congr 1
  funext event
  cases event with
  | told u => cases u <;> rfl
  | asked q a => rfl

theorem filterMap_notice?_ofNotice {I : Interface} (notices : List Notice) :
    (notices.map (Event.ofNotice (I := I))).filterMap Event.notice? = notices := by
  rw [List.filterMap_map]
  exact List.filterMap_some

theorem filterMap_notice?_reported (x : Exchange runtime) :
    (reported name x).filterMap Event.notice? = announced name x ++ confirmed x := by
  rw [reported, List.filterMap_append, filterMap_notice?_ofNotice, List.filterMap_cons]
  exact congrArg _ (filterMap_notice?_ofNotice _)

def notes (name : String) (xs : List (Exchange runtime)) : List Notice :=
  xs.flatMap fun x => announced name x ++ confirmed x

theorem filterMap_notice?_flatMap_reported (xs : List (Exchange runtime)) :
    (xs.flatMap (reported name)).filterMap Event.notice? = notes name xs := by
  rw [List.filterMap_flatMap, notes]
  congr 1
  funext x
  exact filterMap_notice?_reported x

def Notice.pulledImage? : Notice → Option Image
  | .pulled image => some image
  | _ => none

def Notice.presentImage? : Notice → Option Image
  | .alreadyPresent image => some image
  | _ => none

def found? : Exchange runtime → Option Image
  | ⟨.query image, .ok true⟩ => some image
  | _ => none

theorem filterMap_pulledImage?_notes (xs : List (Exchange runtime)) :
    (notes name xs).filterMap Notice.pulledImage? = xs.filterMap fetched? := by
  rw [notes, List.filterMap_flatMap, List.filterMap_eq_flatMap_toList]
  congr 1
  funext x
  rcases x with ⟨image | image, fault | _ | _⟩ <;> rfl

theorem filterMap_presentImage?_notes (xs : List (Exchange runtime)) :
    (notes name xs).filterMap Notice.presentImage? = xs.filterMap found? := by
  rw [notes, List.filterMap_flatMap, List.filterMap_eq_flatMap_toList]
  congr 1
  funext x
  rcases x with ⟨image | image, fault | _ | _⟩ <;> rfl

theorem level_of_mem_notes {xs : List (Exchange runtime)} {n : Notice}
    (member : n ∈ notes name xs) :
    n.level = .info := by
  obtain ⟨x, -, inside⟩ := List.mem_flatMap.mp member
  rcases x with ⟨image | image, fault | _ | _⟩ <;>
    simp only [announced, confirmed, List.append_nil, List.nil_append, List.cons_append,
      List.mem_cons, List.not_mem_nil, or_false] at inside
  · rw [inside]
    rfl
  · rw [inside]
    rfl
  · rcases inside with rfl | rfl <;> rfl

namespace Segment

variable {segments : List Segment}

theorem filterMap_found? (sound : ∀ segment ∈ segments, segment.fault? = none) :
    (segments.flatMap exchanges).filterMap found? =
      ((segments.map mark).filter fun entry => !entry.2).map Prod.fst := by
  induction segments with
  | nil => rfl
  | cons head tail ih =>
      have rest := ih fun segment member => sound segment (by simp [member])
      rw [List.flatMap_cons, List.filterMap_append, rest]
      cases head with
      | found image | fetched image => rfl
      | unanswered image fault | unfetched image fault => cases sound _ List.mem_cons_self

theorem account_of_tally {t : Tally} (ended : tally segments = .ok t) :
    (segments.flatMap exchanges).filterMap fetched? = t.pulled ∧
      (segments.flatMap exchanges).filterMap found? = t.alreadyPresent ∧
      t.total = segments.length := by
  have sound := (exists_tally_iff segments).mp ⟨t, ended⟩
  rw [tally_eq_marks sound] at ended
  cases ended
  refine ⟨filterMap_fetched? sound, filterMap_found? sound, ?_⟩
  have both := (segments.map mark).length_eq_length_filter_add Prod.snd
  rw [List.length_map] at both
  rw [Tally.total, List.length_map, List.length_map, both, Nat.add_comm]

end Segment

def closing : Except Fault Tally → List Notice
  | .ok t => [.finished t.total t.pulled.length t.alreadyPresent.length]
  | .error _ => []

theorem level_of_mem_closing {result : Except Fault Tally} {n : Notice}
    (member : n ∈ closing result) : n.level = .info := by
  cases result with
  | error fault => cases member
  | ok t =>
      rw [List.mem_singleton.mp member]
      rfl

theorem provide_run (m : Machine runtime σ) (name : String) (images : List Image) (s : σ) :
    let each := (ensureEach name images).run.run m s
    (provide name images).run.run m s =
      ⟨.ofNotice .started :: each.events ++ (closing each.value).map .ofNotice, each.value,
        each.state⟩ := by
  intro each
  have started : ((Attempt.notice .started : Attempt runtime Fault Unit).run.run m s).value =
      .ok () := rfl
  have unchanged : ((Attempt.notice .started : Attempt runtime Fault Unit).run.run m s).state = s :=
    rfl
  rw [provide, Attempt.run_bind_ok m started, unchanged]
  cases ended : each.value with
  | error fault =>
      rw [Attempt.run_bind_error m ended, closing, List.map_nil, List.append_nil]
      rfl
  | ok t =>
      rw [Attempt.run_bind_ok m ended]
      rfl

/-- The lines of a log on a call and its answer, as they are read. -/
def logLines (name : String) : Exchange runtime → List String
  | ⟨.query image, .ok true⟩ =>
    ["Image " ++ image.reference ++ " already exists locally, skipping pull"]
  | ⟨.query _, .ok false⟩ | ⟨.query _, .error _⟩ => []
  | ⟨.pull image, .ok _⟩ =>
    ["Pulling image " ++ image.reference ++ " with " ++ name ++ "...",
      "✓ Pulled image " ++ image.reference]
  | ⟨.pull image, .error _⟩ => ["Pulling image " ++ image.reference ++ " with " ++ name ++ "..."]

def closingLine (total pulled present : Nat) : String :=
  "✓ All " ++ toString total ++ " images present (" ++ toString pulled ++ " pulled, " ++
    toString present ++ " already present)"

theorem map_text_notes (xs : List (Exchange runtime)) :
    (notes name xs).map Notice.text = xs.flatMap (logLines name) := by
  rw [notes, List.map_flatMap]
  congr 1
  funext x
  rcases x with ⟨image | image, fault | _ | _⟩ <;> rfl

theorem map_text_closing (result : Except Fault Tally) :
    (closing result).map Notice.text = result.toOption.toList.map fun t =>
      closingLine t.total t.pulled.length t.alreadyPresent.length := by
  cases result with
  | error fault => rfl
  | ok t => rfl

/-- A log has its first line, for each call the reports that belong to it and its answer, next to
the call, and, if the run succeeds, its last line. That counts every image once, and the images of
the two kinds are those that the log names and the calls say. -/
theorem provide_reports (m : Machine runtime σ) (name : String) (images : List Image) (s : σ) :
    let run := (provide name images).run.run m s
    let log := notes name run.exchanges
    (∃ segments : List Segment, run.exchanges = segments.flatMap Segment.exchanges ∧
      segments.map Segment.image <+: images) ∧
    run.events = .ofNotice .started :: run.exchanges.flatMap (reported name) ++
      (closing run.value).map .ofNotice ∧
    run.notices = .started :: log ++ closing run.value ∧
    (∀ n ∈ run.notices, n.level = .info) ∧
    run.notices.map Notice.text =
      "==== Pulling images ====" :: run.exchanges.flatMap (logLines name) ++
        run.value.toOption.toList.map (fun _ => closingLine images.length
          (run.exchanges.filterMap fetched?).length (run.exchanges.filterMap found?).length) ∧
    log.filterMap Notice.pulledImage? = run.exchanges.filterMap fetched? ∧
    ∀ t, run.value = .ok t → t.total = images.length ∧
      t.pulled = log.filterMap Notice.pulledImage? ∧
      t.alreadyPresent = log.filterMap Notice.presentImage? := by
  intro run log
  obtain ⟨exchanges, value, -⟩ := Run.silent_eq (provide_silent m name images s)
  obtain ⟨each, result, -⟩ := Run.silent_eq (ensureEach_silent m name images s)
  obtain ⟨part, -, whole⟩ := Segment.ofEach_spec m images s
  have events : run.events = .ofNotice .started :: run.exchanges.flatMap (reported name) ++
      (closing run.value).map .ofNotice := by
    rw [show run.exchanges = _ from exchanges, ← each, ← reports_ensureEach,
      show run.value = _ from value, ← result]
    exact congrArg Run.events (provide_run m name images s)
  have notices : run.notices = .started :: log ++ closing run.value := by
    rw [Run.notices_eq, events, List.filterMap_append, filterMap_notice?_ofNotice,
      List.filterMap_cons]
    simp only [filterMap_notice?_flatMap_reported]
    rfl
  have account : ∀ t, run.value = .ok t → t.total = images.length ∧
      t.pulled = run.exchanges.filterMap fetched? ∧
      t.alreadyPresent = run.exchanges.filterMap found? := by
    intro t ended
    rw [show run.value = _ from value] at ended
    have sound := (Segment.exists_tally_iff _).mp ⟨t, ended⟩
    obtain ⟨fetched, found, total⟩ := Segment.account_of_tally ended
    rw [show run.exchanges = _ from exchanges, fetched, found, total,
      ← List.length_map Segment.image, whole sound]
    exact ⟨rfl, rfl, rfl⟩
  refine ⟨⟨_, exchanges, part⟩, events, notices, ?_, ?_, filterMap_pulledImage?_notes _, ?_⟩
  · intro n member
    rw [notices, List.mem_append, List.mem_cons] at member
    rcases member with (rfl | inside) | last
    · rfl
    · exact level_of_mem_notes inside
    · exact level_of_mem_closing last
  · rw [notices, List.map_append, List.map_cons, map_text_notes, map_text_closing]
    congr 1
    cases ended : run.value with
    | error fault => rfl
    | ok t =>
        obtain ⟨total, pulled, present⟩ := account t ended
        rw [← total, ← pulled, ← present]
        rfl
  · intro t ended
    rw [filterMap_pulledImage?_notes, filterMap_presentImage?_notes]
    exact account t ended

end ImageStock
