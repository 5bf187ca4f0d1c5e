import ImageStock.Proofs.Arguments
import ImageStock.Proofs.FileTree
import ImageStock.Proofs.Provision.Served
import ImageStock.Workspace

/-! Programs of a workspace as runtimes. A program is asked through commands, but what it does can
be told without them: as a machine that answers from its store. Main statement: images are provided
through the commands exactly as they are by that machine. -/

namespace ImageStock

def Response.showsImage (r : Response) : Bool :=
  r.status.success && (Text.Utf8.decodeLossy r.output).any fun c => ! Text.isBlank c

theorem Response.showsImage_ending (r : Response) : r.ending.showsImage = r.showsImage := by
  rw [showsImage, Ending.showsImage, Engine.listsImages_eq]
  simp only [List.not_all_eq_any_not]
  rfl

namespace StandIn

/-- A program as a runtime. No query fails, and a pull fails unless the program ends well. -/
def machine : Machine runtime StandIn where
  answer
    | .query image, p => (.ok (p.query image.reference).showsImage, p)
    | .pull image, p =>
      let (r, p) := p.pull image.reference
      (if r.status.success then .ok ()
        else .error (.pullFailed image.reference r.status.code?), p)

theorem respond_query (p : StandIn) (leading : List String) (reference : String) :
    p.respond (leading ++ ["images", "-q", reference]) = (p.query reference, p) := by
  rw [respond, List.reverse_append]
  rfl

theorem respond_pull (p : StandIn) (leading : List String) (reference : String) :
    p.respond (leading ++ ["pull", reference]) = p.pull reference := by
  rw [respond, List.reverse_append]
  rfl

theorem judge_respond (e : Engine) (call : Call) (p : StandIn) :
    e.judge call (.ok (p.respond (e.commandFor call).arguments).1.ending) =
        (machine.answer call p).1 ∧
      (p.respond (e.commandFor call).arguments).2 = (machine.answer call p).2 := by
  cases call with
  | query image =>
      have responds := p.respond_query e.leading image.reference
      rw [Engine.commandFor, Engine.queryCommand, Engine.command, responds, Engine.judge,
        Response.showsImage_ending]
      exact ⟨rfl, rfl⟩
  | pull image =>
      have responds := p.respond_pull e.leading image.reference
      rw [Engine.commandFor, Engine.pullCommand, Engine.command, responds]
      exact ⟨rfl, rfl⟩

end StandIn

namespace Host

variable {h : Host} {path program : String} {found : String × Location}

theorem plain_of_runnable_eq_ok (ran : findProgram.runnable h path = .ok found) :
    '\x00' ∉ path.toList := by
  obtain ⟨place, located, -⟩ := bind_eq_ok.mp ran
  exact (FileTree.locate_eq_ok_iff.mp located).1.text

theorem plain_of_search_eq_ok {last : SystemError} {denied : Bool} {dirs : List String}
    (reached : findProgram.search h program last denied dirs = .ok found) :
    '\x00' ∉ program.toList := by
  induction dirs generalizing last denied with
  | nil => cases reached
  | cons dir dirs ih =>
      rw [findProgram.search] at reached
      split at reached
      · next place ran =>
          have plain := plain_of_runnable_eq_ok ran
          split at plain
          · exact plain
          · -- The program is the end of a path name that can be one.
            simp only [String.toList_append, List.mem_append, not_or] at plain
            exact plain.2
      · split at reached
        · exact ih reached
        · split at reached
          · exact ih reached
          · cases reached

theorem plain_of_findProgram_eq_ok (reached : h.findProgram program = .ok found) :
    '\x00' ∉ program.toList := by
  rw [findProgram] at reached
  split at reached
  · exact plain_of_runnable_eq_ok reached
  · split at reached
    · cases reached
    · exact plain_of_search_eq_ok reached

end Host

namespace Workspace

section Start

variable {c : Command} {w : Workspace} {path : String} {l : Location}

theorem any_nul_eq_false (plain : ∀ word ∈ c.words, '\x00' ∉ word.toList) :
    c.words.any (·.toList.contains '\x00') = false := by
  rw [List.any_eq_false]
  intro word member
  rw [List.contains_iff_mem]
  exact plain word member

theorem start_eq {p : StandIn} (plain : ∀ word ∈ c.words, '\x00' ∉ word.toList)
    (found : w.host.findProgram c.program = .ok (path, l)) (fits : w.Fits path c)
    (program : w.programs.lookup l = some p) :
    start c w = (.ok (p.respond c.arguments).1.ending, { w with
      programs := (l, (p.respond c.arguments).2) :: w.programs.filter (·.1 ≠ l)
      received := w.received ++ [l.getLastD "" :: c.arguments] }) := by
  rw [start, any_nul_eq_false plain, found]
  simp only [if_pos fits, program]
  rfl

theorem start_of_not_fits (plain : ∀ word ∈ c.words, '\x00' ∉ word.toList)
    (found : w.host.findProgram c.program = .ok (path, l)) (large : ¬ w.Fits path c) :
    start c w = (.error .argumentTooLong, w) := by
  rw [start, any_nul_eq_false plain, found]
  simp only [if_neg large]
  rfl

end Start

/-- A program stands at a place, and all else is as in another workspace. -/
structure Hosts (w : Workspace) (l : Location) (v : Workspace) (p : StandIn) : Prop where
  host : v.host = w.host
  room : v.room = w.room
  program : v.programs.lookup l = some p
  others : ∀ k ≠ l, v.programs.lookup k = w.programs.lookup k

structure Runs (w : Workspace) (e : Engine) (path : String) (l : Location) : Prop where
  found : w.host.findProgram e.program = .ok (path, l)
  leading : ∀ word ∈ e.leading, '\x00' ∉ word.toList

/-- The system can give a program the words for a call. -/
structure Takes (w : Workspace) (e : Engine) (path : String) (call : Call) : Prop where
  reference : '\x00' ∉ call.image.reference.toList
  fits : w.Fits path (e.commandFor call)

instance (w : Workspace) (e : Engine) (path : String) (call : Call) :
    Decidable (Takes w e path call) :=
  decidable_of_iff (_ ∧ _) ⟨fun both => ⟨both.1, both.2⟩, fun takes => ⟨takes.1, takes.2⟩⟩

variable {w v : Workspace} {e : Engine} {path : String} {l : Location} {p : StandIn} {call : Call}

theorem Hosts.fits {c : Command} (hosts : Hosts w l v p) (fits : w.Fits path c) :
    v.Fits path c := by
  rw [Fits, textSizes, hosts.host, hosts.room]
  exact fits

theorem Hosts.called (hosts : Hosts w l v p) (q : StandIn) (received : List (List String)) :
    Hosts w l { v with
      programs := (l, q) :: v.programs.filter (·.1 ≠ l)
      received := received } q := by
  refine ⟨hosts.host, hosts.room, List.lookup_cons_self, ?_⟩
  intro k different
  have other : (k == l) = false := beq_eq_false_iff_ne.mpr different
  rw [List.lookup_cons, other, FileTree.lookup_filter_other _ different]
  exact hosts.others k different

theorem plain_words (runs : Runs w e path l) (reference : '\x00' ∉ call.image.reference.toList) :
    ∀ word ∈ (e.commandFor call).words, '\x00' ∉ word.toList := by
  have program := Host.plain_of_findProgram_eq_ok runs.found
  have own : ∀ word ∈ call.words, '\x00' ∉ word.toList := by
    cases call with
    | query image => simpa [Call.words, Call.image] using reference
    | pull image => simpa [Call.words, Call.image] using reference
  intro word member
  rw [Engine.words_commandFor, List.cons_append, List.mem_cons, List.mem_append] at member
  rcases member with rfl | leading | last
  · exact program
  · exact runs.leading word leading
  · exact own word last

theorem answer_on_machine (runs : Runs w e path l) (hosts : Hosts w l v p)
    (takes : Takes w e path call) :
    (e.on machine).answer call v = ((StandIn.machine.answer call p).1, { v with
      programs := (l, (StandIn.machine.answer call p).2) :: v.programs.filter (·.1 ≠ l)
      received := v.received ++ [l.getLastD "" :: (e.commandFor call).arguments] }) := by
  have program : (e.commandFor call).program = e.program := by cases call <;> rfl
  have found : v.host.findProgram (e.commandFor call).program = .ok (path, l) := by
    rw [program, hosts.host]
    exact runs.found
  have started : machine.answer (e.commandFor call) v = _ :=
    start_eq (plain_words runs takes.reference) found (hosts.fits takes.fits) hosts.program
  obtain ⟨judged, left⟩ := StandIn.judge_respond e call p
  rw [Engine.answer_on, started, judged, left]

theorem simulates (runs : Runs w e path l) :
    (e.on machine).Simulates StandIn.machine (Hosts w l) (Takes w e path) where
  answer call v p takes hosts := by rw [answer_on_machine runs hosts takes]
  state call v p takes hosts := by
    rw [answer_on_machine runs hosts takes]
    exact hosts.called _ _

theorem answer_versionCommand (runs : Runs w e path l) (hosts : Hosts w l v p)
    (fits : w.Fits path e.versionCommand) :
    let called := p.respond (e.leading ++ ["--version"])
    ∃ after, machine.answer e.versionCommand v = (.ok called.1.ending, after) ∧
      Hosts w l after called.2 := by
  intro called
  have found : v.host.findProgram e.versionCommand.program = .ok (path, l) := by
    rw [hosts.host]
    exact runs.found
  have plain : ∀ word ∈ e.versionCommand.words, '\x00' ∉ word.toList := by
    intro word member
    rcases List.mem_cons.mp member with rfl | argument
    · exact Host.plain_of_findProgram_eq_ok runs.found
    · rcases List.mem_append.mp argument with leading | version
      · exact runs.leading word leading
      · rw [List.mem_singleton.mp version]
        decide
  exact ⟨_, start_eq plain found (hosts.fits fits) hosts.program, hosts.called _ _⟩

theorem received_after (runs : Runs w e path l) (hosts : Hosts w l v p) (calls : List Call)
    (takes : ∀ call ∈ calls, Takes w e path call) :
    ((e.on machine).after v calls).received = v.received ++
      calls.map fun call => l.getLastD "" :: (e.commandFor call).arguments := by
  induction calls generalizing v p with
  | nil => exact (List.append_nil _).symm
  | cons call calls ih =>
      -- The program may have another store after the call, but it still stands at its place.
      have first := takes call (by simp)
      have next := (simulates runs).state call v p first hosts
      have rest := ih next (by intro later member; exact takes later (by simp [member]))
      rw [Machine.after_cons, rest, answer_on_machine runs hosts first, List.map_cons,
        List.append_assoc]
      rfl

end Workspace

theorem StandIn.exists_pull_of_eq_error {name : String} {images : List Image} {p : StandIn}
    {fault : Fault} (failed : ((provide name images).run.run machine p).value = .error fault) :
    ∃ reference code, fault = .pullFailed reference code := by
  obtain ⟨image, -, earlier, query | pull⟩ := exchanges_of_provide_eq_error failed
  · have given := Dialogue.answer_of_exchanges_eq machine _ p query
    cases given
  · have given := Dialogue.answer_of_exchanges_eq machine _ p pull
    simp only [machine] at given
    split at given
    · cases given
    · exact ⟨_, _, Except.error.inj given⟩

namespace Workspace

/-- Images that are provided through the commands of a program are provided as they are by the
program itself: to the same end, with the same store, by the same calls in the same order. Only a
pull can make the run fail, by the way its program ended. The system has to be able to give the
program its words: none of them has the character 0 in it, and there is room for them all. -/
theorem serve_provide (w : Workspace) (line program : String) (leading : List String)
    (path : String) (l : Location) (p : StandIn) (images : List Image)
    (words : Text.words line = program :: leading)
    (plain : ∀ word ∈ leading, '\x00' ∉ word.toList)
    (references : ∀ image ∈ images, '\x00' ∉ image.reference.toList)
    (fits : ∀ image ∈ images, w.Fits path (Engine.queryCommand ⟨program, leading⟩ image) ∧
      w.Fits path (Engine.pullCommand ⟨program, leading⟩ image))
    (found : w.host.findProgram program = .ok (path, l))
    (stands : w.programs.lookup l = some p) :
    let e : Engine := ⟨program, leading⟩
    let called := (e.serve (provide program images)).run.run machine w
    let direct := (provide program images).run.run StandIn.machine p
    Engine.ofCommandLine? line = some e ∧ called.value = direct.value ∧
      Hosts w l called.state direct.state ∧
      called.state.received = w.received ++
        direct.requests.map (fun call => l.getLastD "" :: (leading ++ call.words)) ∧
      ∀ fault, called.value = .error fault → ∃ image ∈ images, ∃ earlier ending,
        called.exchanges = earlier ++ [⟨e.pullCommand image, .ok ending⟩] ∧
        ((∃ n : Fin 256, n ≠ 0 ∧ ending.status = .exited n ∧
            fault = .pullFailed image.reference (some n.val)) ∨
          ∃ signal, ending.status = .signalled signal ∧
            fault = .pullFailed image.reference none) := by
  intro e called direct
  have runs : Runs w e path l := ⟨found, plain⟩
  have start : Hosts w l w p := ⟨rfl, rfl, stands, fun _ _ => rfl⟩
  have within : ∀ call ∈ direct.requests, Takes w e path call := by
    intro call asked
    have given := image_of_mem_requests asked
    refine ⟨references call.image given, ?_⟩
    cases call with
    | query image => exact (fits image given).1
    | pull image => exact (fits image given).2
  obtain ⟨value, state, -⟩ := e.serve_run machine (provide program images) w
  obtain ⟨same, exchanges, hosts⟩ := Dialogue.run_simulates (simulates runs) _ start within
  have parsed : Engine.ofCommandLine? line = some e := by
    rw [Engine.ofCommandLine?, words]
  have after : called.state = (e.on machine).after w direct.requests := by
    rw [state, Dialogue.state_eq_after, exchanges, ← Run.requests_eq_map_exchanges]
  have received : called.state.received = w.received ++
      direct.requests.map (fun call => l.getLastD "" :: (leading ++ call.words)) := by
    calc
      _ = w.received ++
          direct.requests.map fun call => l.getLastD "" :: (e.commandFor call).arguments := by
        rw [after, received_after runs start _ within]
      _ = _ := by simp only [Engine.arguments_commandFor, e]
  have unmoved : Hosts w l called.state direct.state := by
    rw [state]
    exact hosts
  refine ⟨parsed, value.trans same, unmoved, received, ?_⟩
  intro fault failed
  -- The direct run only fails at pulls, so of the ways to fail through commands one is left.
  obtain ⟨reference, code, only⟩ :=
    StandIn.exists_pull_of_eq_error (same.symm.trans (value.symm.trans failed))
  obtain ⟨image, given, earlier, last, fails, split⟩ :=
    Engine.exchanges_of_serve_provide_eq_error failed
  refine ⟨image, given, earlier, ?_⟩
  cases fails with
  | query error => cases only
  | pull error => cases only
  | status ending unsuccessful =>
      refine ⟨ending, split, ?_⟩
      cases ended : ending.status with
      | exited n =>
          left
          refine ⟨n, ?_, rfl, rfl⟩
          rintro rfl
          rw [ended] at unsuccessful
          cases unsuccessful
      | signalled signal => exact .inr ⟨signal, rfl, rfl⟩

def lonely (p : StandIn) : Workspace where
  host := {
    files := { root := "", nodes := [(["bin"], .directory), (["bin", "rt"], .file [] true)] }
    directory := []
    environment := []
    accountHome := none }
  programs := [(["bin", "rt"], p)]

theorem findProgram_lonely (p : StandIn) :
    (lonely p).host.findProgram "rt" = .ok ("/bin/rt", ["bin", "rt"]) := by
  show (lonely {}).host.findProgram "rt" = _
  decide +kernel

/-- A program that has one image and is killed when it pulls another one. -/
theorem serve_provide_killed :
    let p : StandIn := {
      present := { references := ["x"] }
      pulls := [("y", { status := .signalled 9 })] }
    let images : List Image := [⟨"x", by decide⟩, ⟨"y", by decide⟩]
    let e : Engine := ⟨"rt", ["--quiet"]⟩
    let called := (e.serve (provide "rt" images)).run.run machine (lonely p)
    Text.words "rt --quiet" = ["rt", "--quiet"] ∧
      (∀ word ∈ ["--quiet"], '\x00' ∉ word.toList) ∧
      (∀ image ∈ images, '\x00' ∉ image.reference.toList) ∧
      (∀ image ∈ images, (lonely p).Fits "/bin/rt" (e.queryCommand image) ∧
        (lonely p).Fits "/bin/rt" (e.pullCommand image)) ∧
      called.value = .error (.pullFailed "y" none) ∧
      called.state.programs.lookup ["bin", "rt"] = some p ∧
      called.state.received = [["rt", "--quiet", "images", "-q", "x"],
        ["rt", "--quiet", "images", "-q", "y"], ["rt", "--quiet", "pull", "y"]] := by
  intro p images e called
  have words : Text.words "rt --quiet" = ["rt", "--quiet"] := by decide +kernel
  have plain : ∀ word ∈ ["--quiet"], '\x00' ∉ word.toList := by decide
  have references : ∀ image ∈ images, '\x00' ∉ image.reference.toList := by decide
  have fits : ∀ image ∈ images, (lonely p).Fits "/bin/rt" (e.queryCommand image) ∧
      (lonely p).Fits "/bin/rt" (e.pullCommand image) := by
    decide
  obtain ⟨-, value, hosts, received, -⟩ := serve_provide (lonely p) "rt --quiet" "rt" ["--quiet"]
    "/bin/rt" ["bin", "rt"] p images words plain references fits (findProgram_lonely p) rfl
  have killed : ((provide "rt" images).run.run StandIn.machine p).value =
      .error (.pullFailed "y" none) := by
    decide +kernel
  have store : ((provide "rt" images).run.run StandIn.machine p).state = p := by
    decide +kernel
  have calls : ((provide "rt" images).run.run StandIn.machine p).requests =
      [.query images[0], .query images[1], .pull images[1]] := by
    decide +kernel
  refine ⟨words, plain, references, fits, value.trans killed, ?_, ?_⟩
  · rw [hosts.program, store]
  · rw [received, calls]
    rfl

theorem serve_provide_of_refused {σ : Type} {m : Machine shell σ} {s : σ} {e : Engine}
    {image : Image} {error : SystemError}
    (refused : (m.answer (e.queryCommand image) s).1 = .error error) (images : List Image) :
    ((e.serve (provide e.program (image :: images))).run.run m s).value =
      .error (.notStarted s!"{e.program} images" error) := by
  obtain ⟨value, -, -⟩ := e.serve_run m (provide e.program (image :: images)) s
  obtain ⟨-, result, -⟩ := Run.silent_eq (provide_silent (e.on m) e.program (image :: images) s)
  have answered : ((e.on m).answer (.query image) s).1 =
      .error (.notStarted s!"{e.program} images" error) := by
    rw [Engine.answer_on]
    show e.judge (.query image) (m.answer (e.queryCommand image) s).1 = _
    rw [refused]
    rfl
  have first : (Segment.of (e.on m) image s).1 =
      .unanswered image (.notStarted s!"{e.program} images" error) := by
    rcases asked : (e.on m).answer (.query image) s with ⟨answer, t⟩
    rw [asked] at answered
    cases answered
    simp only [Segment.of, asked]
  rw [value, result, Segment.ofEach]
  simp only [first]
  rfl

def longWord (n : Nat) : String := String.ofList (List.replicate n 'a')

theorem plain_longWord (n : Nat) : '\x00' ∉ (longWord n).toList := by
  rw [longWord, String.toList_ofList, List.mem_replicate]
  rintro ⟨-, same⟩
  exact absurd same (by decide)

theorem utf8ByteSize_longWord (n : Nat) : (longWord n).utf8ByteSize = n := by
  have narrow : 'a'.utf8Size = 1 := by decide
  rw [longWord, Text.utf8ByteSize_replicate narrow]

theorem isWord_longWord {n : Nat} (some : 0 < n) : Text.IsWord (longWord n) := by
  constructor
  · intro nothing
    have size := utf8ByteSize_longWord n
    rw [nothing, String.utf8ByteSize_empty] at size
    omega
  · intro c member
    rw [longWord, String.toList_ofList, List.mem_replicate] at member
    rw [member.2]
    decide

theorem space_append (sizes later : List Nat) :
    space (sizes ++ later) = space sizes + space later := by
  induction sizes with
  | nil => simp [space]
  | cons size sizes ih => simp [space, ih, Nat.add_assoc]

theorem space_replicate (count size : Nat) :
    space (List.replicate count size) = count * (size + 9) := by
  induction count with
  | zero => simp [space]
  | succ count ih => rw [List.replicate_succ, space, ih, Nat.succ_mul, Nat.add_comm]

theorem not_fits_longWord {n count : Nat} (large : 2097152 < count * (n + 9)) (p : StandIn)
    (image : Image) : ¬ (lonely p).Fits "/bin/rt"
      (Engine.queryCommand ⟨"rt", List.replicate count (longWord n)⟩ image) := by
  rintro ⟨-, total⟩
  simp only [textSizes, Engine.queryCommand, Engine.command, Command.words, List.map_cons,
    List.map_append, List.map_replicate, utf8ByteSize_longWord, List.cons_append, space,
    space_append, space_replicate] at total
  have room : (lonely p).room = 2097152 := rfl
  omega

/-- The system takes no word with the character 0, and no more words than there is room for: the
image that the program has cannot be asked for behind such words. -/
theorem serve_provide_refused :
    let p : StandIn := { present := { references := ["x"] } }
    let image : Image := ⟨"x", by decide⟩
    let longLine := "rt" ++ Text.joinLater (List.replicate 16 (" ", longWord 131071))
    let nul : Engine := ⟨"rt", ["a\x00b"]⟩
    let long : Engine := ⟨"rt", List.replicate 16 (longWord 131071)⟩
    let value (e : Engine) := ((e.serve (provide "rt" [image])).run.run machine (lonely p)).value
    let direct := (provide "rt" [image]).run.run StandIn.machine p
    (lonely p).host.findProgram "rt" = .ok ("/bin/rt", ["bin", "rt"]) ∧
      (lonely p).programs.lookup ["bin", "rt"] = some p ∧
      '\x00' ∉ image.reference.toList ∧ image.reference.utf8ByteSize < textLimit ∧
      direct.value = .ok { alreadyPresent := [image] } ∧
      Engine.ofCommandLine? "rt a\x00b" = some nul ∧
      value nul = .error (.notStarted "rt images" .nulInArgument) ∧
      Engine.ofCommandLine? longLine = some long ∧
      (∀ word ∈ long.leading, '\x00' ∉ word.toList ∧ word.utf8ByteSize < textLimit) ∧
      value long = .error (.notStarted "rt images" .argumentTooLong) := by
  intro p image longLine nul long value direct
  have present : direct.value = .ok { alreadyPresent := [image] } := by decide +kernel
  have parsed : Engine.ofCommandLine? "rt a\x00b" = some nul := by decide +kernel
  have refused : value nul = .error (.notStarted "rt images" .nulInArgument) :=
    serve_provide_of_refused (e := nul) (by decide +kernel) []
  have words : ∀ word ∈ long.leading, '\x00' ∉ word.toList ∧ word.utf8ByteSize < textLimit := by
    intro word member
    rw [List.eq_of_mem_replicate member, utf8ByteSize_longWord]
    exact ⟨plain_longWord _, by decide⟩
  have parsedLong : Engine.ofCommandLine? longLine = some long := by
    rw [Engine.ofCommandLine?_eq_some_iff]
    refine ⟨⟨"", "rt", List.replicate 16 (" ", longWord 131071), "", rfl, ?_, ?_, rfl⟩, ?_, rfl, ?_⟩
    · exact ⟨by decide, by simp [Text.isBlank]⟩
    · intro entry member
      rw [List.eq_of_mem_replicate member]
      exact ⟨⟨by decide, rfl⟩, isWord_longWord (by omega)⟩
    · simp [Text.Layout.text, longLine]
    · exact List.map_replicate
  have refusedLong : value long = .error (.notStarted "rt images" .argumentTooLong) := by
    have runs : Runs (lonely p) long "/bin/rt" ["bin", "rt"] :=
      ⟨findProgram_lonely p, fun word member => (words word member).1⟩
    have plain : ∀ word ∈ (long.commandFor (.query image)).words, '\x00' ∉ word.toList :=
      plain_words runs (by decide)
    have started := start_of_not_fits plain (findProgram_lonely p)
      (not_fits_longWord (by omega) p image)
    exact serve_provide_of_refused (e := long) (congrArg Prod.fst started) []
  exact ⟨findProgram_lonely p, rfl, by decide, by decide, present, parsed, refused, parsedLong,
    words, refusedLong⟩

end Workspace

end ImageStock
