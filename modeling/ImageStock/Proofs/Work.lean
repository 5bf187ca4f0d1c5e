import ImageStock.Host
import ImageStock.Proofs.Within

/-! Work on a host. Main statements: an attempt leaves the host as it is, and what the two pieces of
work that write a project file come to, with the host at their end. -/

namespace ImageStock

variable {I : Interface} {σ α : Type}

theorem Work.run_ofAttempt (m : Machine I σ) (d : Attempt I Failure α) (h : Host) (s : σ) :
    ((ofAttempt d).run.run h).run m s =
      ⟨(d.run.run m s).events, ((d.run.run m s).value, h), (d.run.run m s).state⟩ := by
  show (d.run.bind fun result => .done (result, h)).run m s = _
  rw [Dialogue.run_bind]
  simp only [Dialogue.run, List.append_nil]

namespace Host

theorem writeProject_on (h : Host) (dir : String) (p : ProjectFile) :
    let path := h.join dir projectFileName
    let content := Text.Utf8.encode (String.ofList p.render)
    (writeProject (I := I) dir p).run.run h =
      match h.files.write h.directory path content with
      | .error e => .done (.error ((Failure.of (.system e)).within (.writing path)), h)
      | .ok files => .tell (.notice (.written path)) (.done (.ok path, { h with files })) := by
  intro path content
  show (match h.files.write h.directory path content with
    | .error e => (throw _ : Work I String)
    | .ok files => (set _ >>= _ : Work I String)).run.run h = _
  split
  · rfl
  · rfl

theorem initialise_on (h : Host) (dir : String) (force : Bool) :
    let path := h.join dir projectFileName
    (initialise (I := I) dir force).run.run h =
      if h.pathExists path && !force then .done (.error (.of (.fileExists path)), h)
      else ((writeProject dir .initial).run.run h).bind fun
        | (.ok written, after) =>
          .tell (.printed s!"Created {written}\n") (.done (.ok written, after))
        | (.error failure, after) => .done (.error failure, after) := by
  intro path
  show (if h.pathExists path && !force then _ else (_ : Work I String)).run.run h = _
  split
  · rfl
  · show Dialogue.bind _ _ = _
    congr 1
    funext ended
    rcases ended with ⟨failure | written, after⟩
    · rfl
    · rfl

theorem initialise_within (h : Host) (dir : String) (force : Bool) {asks : I.Request → Prop} :
    ((initialise (I := I) dir force).run.run h).Within (fun _ => True) asks := by
  rw [initialise_on]
  split
  · trivial
  · apply Dialogue.within_bind
    · rw [writeProject_on]
      split
      · trivial
      · exact ⟨trivial, trivial⟩
    · rintro ⟨failure | written, after⟩
      · trivial
      · exact ⟨trivial, trivial⟩

end Host

end ImageStock
