import ImageStock.Proofs.FileTree
import ImageStock.Proofs.ProjectFile.Document
import ImageStock.Proofs.Text.Utf8
import ImageStock.Proofs.Work
import ImageStock.Workspace

/-! Project files on a host. Main statement: a project file that is written into a directory is
loaded from there again, and one of another version is refused for its version alone. -/

namespace ImageStock

variable {I : Interface} {σ : Type}

namespace Run

variable {α : Type} (notices : List Notice) (a : α) (s : σ)

def told : Run I σ α := ⟨notices.map fun notice => .told (.notice notice), a, s⟩

theorem notices_told : (told notices a s : Run I σ α).notices = notices := by
  rw [Run.notices, utterances, told, List.filterMap_map, List.filterMap_filterMap]
  exact List.filterMap_some

theorem silent_told : (told notices a s : Run I σ α).silent = ([], a, s) := by
  have nothing : (told notices a s : Run I σ α).exchanges = [] := by
    rw [exchanges, told, List.filterMap_map]
    exact List.filterMap_eq_nil_iff.mpr fun _ _ => rfl
  rw [silent, nothing]
  rfl

end Run

namespace Attempt

variable {ε α β : Type} {m : Machine I σ} {s : σ} {d : Attempt I ε α} {f : α → Attempt I ε β}
  {before later : List Notice}

theorem told_notice (n : Notice) :
    (notice n : Attempt I ε Unit).run.run m s = .told [n] (.ok ()) s := rfl

theorem told_ofExcept (r : Except ε α) :
    (ofExcept r : Attempt I ε α).run.run m s = .told [] r s := rfl

theorem told_bind {a : α} {r : Except ε β} (first : d.run.run m s = .told before (.ok a) s)
    (second : (f a).run.run m s = .told later r s) :
    (d >>= f).run.run m s = .told (before ++ later) r s := by
  have ended : (d.run.run m s).value = .ok a := congrArg Run.value first
  have next : (d.run.run m s).state = s := congrArg Run.state first
  rw [run_bind_ok m ended, next, second, first, Run.told, Run.told, Run.told, List.map_append]
  rfl

theorem told_bind_error {e : ε} (first : d.run.run m s = .told before (.error e) s) :
    (d >>= f).run.run m s = .told before (.error e) s := by
  have ended : (d.run.run m s).value = .error e := congrArg Run.value first
  rw [run_bind_error m ended, first]
  rfl

theorem told_forM_notice (as : List α) (n : α → Notice) :
    (as.forM fun a => notice (n a) : Attempt I ε PUnit).run.run m s =
      .told (as.map n) (.ok ⟨⟩) s := by
  induction as with
  | nil => rfl
  | cons a as ih => exact told_bind (told_notice (n a)) ih

end Attempt

theorem textOf_encode (path : String) (cs : List Char) :
    textOf path (Text.Utf8.encode (String.ofList cs)) = .ok cs := by
  rw [textOf, Text.Utf8.decode?_encode]

namespace ProjectFile

def bytes (p : ProjectFile) : List UInt8 := Text.Utf8.encode (String.ofList p.render)

def reports (decoded : Decoded ProjectFile) (path : String) : List Notice :=
  .loading path :: (decoded.unknown.map (.unknownField path ·) ++
    if decoded.value.version = none then [.versionAssumed path] else [])

def reloaded (p : ProjectFile) (path : String) : Except Failure ProjectFile :=
  match p.version with
  | none | some 1 => .ok p
  | some version => .error (.of (.unsupportedVersion path version))

theorem reloaded_known {p : ProjectFile} (path : String)
    (known : p.version = none ∨ p.version = some 1) : p.reloaded path = .ok p := by
  rcases known with absent | first
  · simp only [reloaded, absent]
  · simp only [reloaded, first]

theorem reloaded_other {p : ProjectFile} {v : UInt32} (path : String)
    (version : p.version = some v) (other : v ≠ 1) :
    p.reloaded path = .error (.of (.unsupportedVersion path v)) := by
  simp only [reloaded, version]

theorem load_told {path : String} {bytes : List UInt8} {document : List Char}
    (text : textOf path bytes = .ok document) (m : Machine I σ) (s : σ) :
    (load path (.ok bytes)).run.run m s =
      match parse document with
      | .ok decoded => .told (reports decoded path) (decoded.value.reloaded path) s
      | .error cause =>
        .told [.loading path] (.error ((Failure.of cause).within (.parsing path))) s := by
  have step {α : Type} (a : α) (f : α → Attempt I Failure ProjectFile) :
      (Attempt.ofExcept (.ok a) >>= f) = f a := rfl
  simp only [load, ok_bind, text, step]
  cases parse document with
  | error cause =>
      exact Attempt.told_bind (Attempt.told_notice _)
        (Attempt.told_bind_error (Attempt.told_ofExcept (.error _)))
  | ok decoded =>
      simp only [Except.mapError, step, reports, reloaded]
      refine Attempt.told_bind (Attempt.told_notice _)
        (Attempt.told_bind (Attempt.told_forM_notice decoded.unknown _) ?_)
      cases version : decoded.value.version with
      | none => rfl
      | some v =>
          by_cases known : v = 1
          · subst known
            rfl
          · have noted : (some v = none) = False := eq_false (Option.some_ne_none v)
            simp only [noted, ↓reduceIte]
            rfl

end ProjectFile

namespace Host

/-- The directory is there, and nothing but a file has the name of its project file. -/
def Writable (h : Host) (dir : String) : Prop :=
  ∃ l, h.files.locate h.directory (h.join dir projectFileName) = .ok l ∧
    h.files.lookup l ≠ some .directory

theorem writeProject_run {h : Host} {dir : String} {l : Location}
    (located : h.files.locate h.directory (h.join dir projectFileName) = .ok l)
    (free : h.files.lookup l ≠ some .directory) (p : ProjectFile) (m : Machine I σ) (s : σ) :
    ∃ runnable, ((writeProject dir p).run.run h).run m s =
      ⟨[.told (.notice (.written (h.join dir projectFileName)))],
        (.ok (h.join dir projectFileName),
          { h with files := h.files.set l (.file p.bytes runnable) }), s⟩ := by
  obtain ⟨runnable, written⟩ := FileTree.write_ok located free p.bytes
  refine ⟨runnable, ?_⟩
  rw [ProjectFile.bytes] at written ⊢
  rw [writeProject_on, written]
  rfl

theorem writeProject_failed {h : Host} {dir : String} (unwritable : ¬ h.Writable dir)
    (p : ProjectFile) (m : Machine I σ) (s : σ) :
    ∃ failure, (((writeProject dir p).run.run h).run m s).value = (.error failure, h) := by
  cases written : h.files.write h.directory (h.join dir projectFileName) p.bytes with
  | ok files => exact absurd (FileTree.free_of_write written) unwritable
  | error e =>
      refine ⟨(Failure.of (.system e)).within (.writing (h.join dir projectFileName)), ?_⟩
      rw [ProjectFile.bytes] at written
      rw [writeProject_on, written]
      rfl

def emptyDesk : Host where
  files := { root := "", nodes := [(["desk"], .directory)] }
  directory := ["desk"]
  environment := []
  accountHome := none

end Host

end ImageStock
