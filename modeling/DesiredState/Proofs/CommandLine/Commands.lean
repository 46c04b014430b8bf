import DesiredState.Proofs.Record.Store

/-!
# Commands on computers

What a command that syncs or deletes does to a computer: it opens manifest and state, which changes
nothing, and then it finishes, which puts the new state into the file of the store.

Contents:

* `Work` — what is done to the resources of a manifest.
* `Request.opened`, `Request.found` — what a request begins with.
* `openedText`, `opened_of_seen` — what is opened of the text of a file.
* `run_of_lost`, `run_of_found` — a request by what is found on the computer.
* `run_finish` — what finishing comes to.
* `runProgram_eq` — the whole program.
-/

namespace DesiredState.CommandLine

open Computer (platform)

/-! ## Work -/

/-- What is done to the resources of a manifest without a question. -/
inductive Work
  | sync (continueOnError : Bool)
  | delete (continueOnError : Bool)

namespace Work

def command : Work → Command
  | .sync continueOnError => .sync continueOnError
  | .delete continueOnError => .delete true continueOnError

/-- The report of the work on a recorded state, done on a computer, and the state after it. -/
def outcome (work : Work) (c : Computer) (s : RecordedState) (m : Manifest) :
    Report × RecordedState :=
  match work with
  | .sync continueOnError => s.sync c.clock c.numbering c.token continueOnError m
  | .delete continueOnError => s.delete c.clock c.numbering c.token continueOnError m

/-- What is said before the work. -/
def remarks (work : Work) (s : RecordedState) (m : Manifest) : String :=
  match work with
  | .sync _ => ""
  | .delete _ =>
    if m.adopted s.resources = 0 then "No recorded resources match the manifest." ++ "\n" else ""

end Work

/-- The manifest of a request as it is found on a computer. -/
def Request.opened (request : Request) (c : Computer) : Except ProgramError OpenManifest :=
  ((openManifest platform request.manifest).run c).1

/-- What a request begins with: the manifest and the recorded state that are found on a computer. -/
def Request.found (request : Request) (c : Computer) :
    Except ProgramError (OpenManifest × RecordedState) := do
  let o ← request.opened c
  let s ← ((openState platform (openStore request.state o.folder)).run c).1
  return (o, s)

variable {request : Request} {work : Work} {c : Computer} {o : OpenManifest} {s : RecordedState}

theorem run_openManifest (request : Request) (c : Computer) :
    (openManifest platform request.manifest).run c = (request.opened c, c) :=
  Prod.ext rfl (Looks.openManifest request.manifest c)

theorem run_openState (store : Store) (c : Computer) :
    (openState platform store).run c = (((openState platform store).run c).1, c) :=
  Prod.ext rfl (Looks.openState store c)

theorem found_eq_ok_iff : request.found c = .ok (o, s) ↔
    request.opened c = .ok o ∧
      ((openState platform (openStore request.state o.folder)).run c).1 = .ok s := by
  unfold Request.found
  cases request.opened c with
  | error e => simp [bind, Except.bind]
  | ok o' =>
    cases read : ((openState platform (openStore request.state o'.folder)).run c).1 with
    | error e => simp only [bind, Except.bind, read]; grind
    | ok s' => simp only [bind, Except.bind, read, pure, Except.pure]; grind

/-! ## The text of a manifest -/

/-- What is opened of the text in a file that has no variables beside it. -/
def openedText (environment : Dict String) (path : Path) (text : String) :
    Except ProgramError OpenManifest :=
  match Manifest.parse text (some path.text) with
  | .error e => .error (.manifest e)
  | .ok declared =>
    let m := (declared.override (environment.get? Manifest.stemVariable)).applyDefaults
    match m.validate false with
    | (m, .ok verdict) => .ok ⟨m, verdict, path.folder⟩
    | (_, .error e) => .error (.manifest e)

section

variable {path : Path} {text : String}

theorem run_loadEnvironment
    (bare : c.tree.seen? c.working (path.folder.child EnvFile.fileName) = none) :
    (EnvFile.load platform path.folder).run c = (.ok .empty, c) := by
  have absent : platform.isPresent (path.folder.child EnvFile.fileName) c = (false, c) := by
    show (c.tree.isPresent c.working _, c) = _
    rw [FileTree.isPresent_eq, bare]
    rfl
  unfold EnvFile.load
  dsimp only
  rw [Attempt.run_bind, Attempt.run_lift, absent]
  rfl

theorem run_readManifest (seen : c.tree.seen? c.working path = some (.file text)) :
    (Manifest.read platform path).run c =
      ((Manifest.parse text (some path.text)).mapError .manifest, c) := by
  have present : platform.isPresent path c = (true, c) := by
    show (c.tree.isPresent c.working path, c) = _
    rw [FileTree.isPresent_eq, seen]
    rfl
  have read : platform.readText path c = (.ok text, c) := by
    show ((c.tree.read c.working path).mapError FileError.message, c) = _
    rw [FileTree.read_of_seen? seen]
    rfl
  unfold Manifest.read
  rw [Attempt.run_bind, Attempt.run_lift, present]
  simp only [Bool.not_true, Bool.false_eq_true, if_false]
  rw [Attempt.run_bind, Attempt.run_lift, read]
  dsimp only
  cases Manifest.parse text (some path.text) <;> rfl

/-- What is opened follows from the text in the file, if there are no variables beside it. -/
theorem opened_of_seen (given : request.manifest = some path)
    (seen : c.tree.seen? c.working path = some (.file text))
    (bare : c.tree.seen? c.working (path.folder.child EnvFile.fileName) = none) :
    request.opened c = openedText c.environment path text := by
  unfold Request.opened openManifest Manifest.load openedText
  rw [given, Attempt.run_bind]
  show ((_ >>= _ : Attempt (StateM Computer) OpenManifest).run c).1 = _
  rw [Attempt.run_bind, run_loadEnvironment bare]
  dsimp only
  rw [Attempt.run_bind, Attempt.run_bind, run_readManifest seen]
  cases Manifest.parse text (some path.text) with
  | error e => rfl
  | ok declared =>
    have kept : (Except.ok declared).mapError ProgramError.manifest = .ok declared := rfl
    rw [kept]
    dsimp only
    rw [Attempt.run_bind, Attempt.run_lift, Computer.run_lookUp_empty]
    simp only [ExceptT.run_pure]
    generalize (declared.override (c.environment.get? Manifest.stemVariable)).applyDefaults = m
    show ((match m.validate false with
      | (m, .ok verdict) => pure ⟨m, verdict, path.folder⟩
      | (_, .error e) => throw (.manifest e) : Attempt (StateM Computer) OpenManifest).run c).1 = _
    rcases m.validate false with ⟨m, e | verdict⟩ <;> rfl

end

/-! ## Requests -/

/-- Where manifest or state cannot be had the computer stays as it is. -/
theorem run_of_lost (palette : Palette) (command : request.command = work.command)
    {e : ProgramError} (lost : request.found c = .error e) :
    (request.run platform palette).run c = (.error e, c) := by
  -- Both kinds of work begin alike and never come to the part in which they differ.
  have ends {f : OpenManifest → RecordedState → Attempt (StateM Computer) UInt32} :
      (do
        let o ← openManifest platform request.manifest
        let s ← openState platform (openStore request.state o.folder)
        f o s : Attempt (StateM Computer) UInt32).run c = (.error e, c) := by
    unfold Request.found at lost
    rw [Attempt.run_bind, run_openManifest]
    cases opened : request.opened c with
    | error e' =>
      rw [opened] at lost
      obtain rfl := Except.error.inj lost
      rfl
    | ok o =>
      rw [opened] at lost
      dsimp only
      rw [Attempt.run_bind, run_openState]
      cases read : ((openState platform (openStore request.state o.folder)).run c).1 with
      | error e' =>
        simp only [bind, Except.bind, read] at lost
        obtain rfl := Except.error.inj lost
        rfl
      | ok s =>
        simp only [bind, Except.bind, read] at lost
        cases lost
  unfold Request.run
  rw [command]
  cases work with
  | sync cont => exact ends
  | delete cont => exact ends

/-- With manifest and state at hand the work is done, and finished. -/
theorem run_of_found (palette : Palette) (command : request.command = work.command)
    (found : request.found c = .ok (o, s)) :
    (request.run platform palette).run c =
      (finish platform palette request (openStore request.state o.folder)
        (work.outcome c s o.manifest)).run
          { c with errors := c.errors ++ work.remarks s o.manifest } := by
  obtain ⟨opened, read⟩ := found_eq_ok_iff.mp found
  have state : (openState platform (openStore request.state o.folder)).run c = (.ok s, c) := by
    rw [run_openState, read]
  unfold Request.run
  rw [command]
  cases work with
  | sync cont =>
    simp only [Work.command, sync, Attempt.run_bind, run_openManifest, opened, state,
      Work.outcome, Work.remarks, String.append_empty]
    rfl
  | delete cont =>
    simp only [Work.command, delete, Attempt.run_bind, run_openManifest, opened, state,
      Work.outcome, Work.remarks]
    split
    · rfl
    · rw [String.append_empty]
      rfl

/-! ## Finishing -/

/-- The state is saved and the report is shown, or the machine refuses to save the state and the file
of the store holds what it held before. -/
theorem run_finish (palette : Palette) (request : Request) {store : Store}
    {text : Option String} (holds : store.Holds c text) (outcome : Report × RecordedState) :
    ∃ tree,
      (store.save platform outcome.2).run c = (.ok (), { c with tree := tree }) ∧
        tree.seen? c.working store.file = some (.file outcome.2.json) ∧
        (finish platform palette request store outcome).run c = (.ok (exitCode outcome.1),
          { c with
            tree := tree
            output := c.output ++ (outcome.1.render palette request.output ++ "\n") }) ∨
      ∃ message, (store.save platform outcome.2).run c =
          (.error (.io message), { c with tree := tree }) ∧
        tree.seen? c.working store.file = text.map .file ∧
        (finish platform palette request store outcome).run c =
          (.error (.io message), { c with tree := tree }) := by
  obtain ⟨answer, tree, saved, ended⟩ := Computer.run_save holds outcome.2
  refine ⟨tree, ?_⟩
  rcases ended with ⟨rfl, seen⟩ | ⟨⟨message, rfl⟩, seen⟩
  · refine .inl ⟨saved, seen, ?_⟩
    rw [finish, Attempt.run_bind, saved]
    rfl
  · refine .inr ⟨message, saved, seen, ?_⟩
    rw [finish, Attempt.run_bind, saved]

/-! ## The whole program -/

theorem looks_readEnvironment : Looks (readEnvironment platform) :=
  Looks.mapM (fun setting => by
    cases setting.variableName? with
    | some name => exact Looks.bind (Looks.environment? name) fun _ => Looks.pure _
    | none => exact Looks.pure _) _

/-- What the arguments ask for on a computer, whose environment counts too. -/
def requestOn (c : Computer) (arguments : List String) : Except Ending Request :=
  Request.ofArguments (environmentOf (readEnvironment platform c).1) arguments

/-- The end of a program: its exit code, or the error that ends it. -/
def ended : Except ProgramError UInt32 × Computer → UInt32 × Computer
  | (.ok code, c) => (code, c)
  | (.error e, c) => (1, { c with errors := c.errors ++ ("Error: " ++ e.message ++ "\n") })

theorem runProgram_eq (palette : Palette) {arguments : List String}
    (asked : requestOn c arguments = .ok request) :
    runProgram platform palette arguments c = ended ((request.run platform palette).run c) := by
  have same : readEnvironment platform c = ((readEnvironment platform c).1, c) :=
    Prod.ext rfl (looks_readEnvironment c)
  unfold requestOn at asked
  unfold runProgram
  show (StateT.bind (readEnvironment platform) _ : StateM Computer UInt32) c = _
  rw [StateT.bind, same]
  simp only [asked, bind, StateT.bind]
  rcases (request.run platform palette).run c with ⟨e | code, c'⟩
  · rfl
  · rfl

end DesiredState.CommandLine
