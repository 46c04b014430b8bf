import Mathlib.Data.Nat.Pairing
import DesiredState.Proofs.CommandLine.Commands
import DesiredState.Proofs.Record.Runs

/-!
# Visits of a store

A visit is a run of the program that works on the store it is pointed to.  Visits follow each other,
each on a computer of its own, and what they share is the text in the file of the store: a visit
finds there what the one before it left, and the first one finds no file.  Any of them may be
interrupted at any of its calls.

Contents:

* `Visit` — a run of the program, what it is asked for and what it finds.
* `Visit.ends_of_lost`, `Visit.ends_of_read` — how a visit ends.
* `Visit.Done`, `Visit.after_eq_or_done` — the new state is in the file, or the old text is.
* `GivenUp`, `Released`, `Issued`, `Named`, `Succession` — visits that follow each other.
* `Succession.coherent`, `Succession.learns` — the state that they leave.
-/

namespace DesiredState.CommandLine

open Computer (platform)

/-! ## Opening -/

theorem of_run_bind {α β : Type} {act : Attempt (StateM Computer) β}
    {rest : β → Attempt (StateM Computer) α} {c c' : Computer} {a : α}
    (ran : (act >>= rest).run c = (.ok a, c')) :
    ∃ b c₁, act.run c = (.ok b, c₁) ∧ (rest b).run c₁ = (.ok a, c') := by
  rw [Attempt.run_bind] at ran
  rcases first : act.run c with ⟨e | b, c₁⟩
  · rw [first] at ran
    cases ran
  · rw [first] at ran
    exact ⟨b, c₁, rfl, ran⟩

/-- Only accepted manifests are opened. -/
theorem accepted_of_opened {request : Request} {c : Computer} {o : OpenManifest}
    (opened : request.opened c = .ok o) : o.manifest.Accepted := by
  have ran := run_openManifest request c
  rw [opened] at ran
  unfold openManifest at ran
  dsimp only at ran
  split at ran <;>
  · obtain ⟨path, c₁, -, ran⟩ := of_run_bind ran
    obtain ⟨defined, c₂, -, ran⟩ := of_run_bind ran
    obtain ⟨m, c₃, -, ran⟩ := of_run_bind ran
    split at ran
    next manifest verdict validated =>
      cases ran
      exact Manifest.accepted_of_validate validated
    · cases ran

/-! ## One visit -/

/-- The text in the file of a store. -/
def storedText (store : Store) (c : Computer) : Option String :=
  (c.tree.read c.working store.file).toOption

/-- A run of the program that works on a store whose file holds a text or is missing. -/
structure Visit where
  palette : Palette
  arguments : List String
  computer : Computer
  request : Request
  work : Work
  store : Store
  before : Option String
  asked : requestOn computer arguments = .ok request
  command : request.command = work.command
  shared : ∀ o, request.opened computer = .ok o → openStore request.state o.folder = store
  holds : store.Holds computer before

/-- The machine lets any state be saved. -/
def Writable (store : Store) (c : Computer) : Prop :=
  ∀ s, ((store.save platform s).run c).1 = .ok ()

namespace Visit

/-- The exit code, and the computer afterwards. -/
def ends (v : Visit) : UInt32 × Computer := runProgram platform v.palette v.arguments v.computer

/-- What the file of the store holds afterwards. -/
def after (v : Visit) : Option String := storedText v.store v.ends.2

def manifest (v : Visit) : Except ProgramError Manifest :=
  (v.request.opened v.computer).map OpenManifest.manifest

def state (v : Visit) : Except StoreError RecordedState := stateIn v.before v.computer.clock

/-- The report of the work on a state, and the state after it. -/
def outcome (v : Visit) (m : Manifest) (s : RecordedState) : Report × RecordedState :=
  v.work.outcome v.computer s m

/-- The work was done, and the file holds the state after it. -/
structure Done (v : Visit) (m : Manifest) (s : RecordedState) : Prop where
  manifest : v.manifest = .ok m
  state : v.state = .ok s
  after : v.after = some (v.outcome m s).2.json

variable {v : Visit} {m : Manifest} {s : RecordedState}

theorem ends_eq (v : Visit) :
    v.ends = ended ((v.request.run platform v.palette).run v.computer) :=
  runProgram_eq v.palette v.asked

theorem opened_of_manifest (manifest : v.manifest = .ok m) :
    ∃ o, v.request.opened v.computer = .ok o ∧ o.manifest = m := by
  unfold Visit.manifest at manifest
  cases opened : v.request.opened v.computer with
  | error e =>
    rw [opened] at manifest
    cases manifest
  | ok o =>
    rw [opened] at manifest
    exact ⟨o, rfl, Except.ok.inj manifest⟩

theorem accepted (manifest : v.manifest = .ok m) : m.Accepted := by
  obtain ⟨o, opened, rfl⟩ := opened_of_manifest manifest
  exact accepted_of_opened opened

theorem storedText_of_seen? {store : Store} {c : Computer} {text : Option String}
    (seen : c.tree.seen? c.working store.file = text.map .file) : storedText store c = text := by
  cases text with
  | some text =>
    unfold storedText
    rw [FileTree.read_of_seen? seen]
    rfl
  | none =>
    unfold storedText FileTree.read
    rw [show (c.tree.place? c.working store.file).bind c.tree.entry? = none from seen]
    rfl

theorem found_of_read (manifest : v.manifest = .ok m) (read : v.state = .ok s) :
    ∃ o, v.request.found v.computer = .ok (o, s) ∧ o.manifest = m ∧
      openStore v.request.state o.folder = v.store := by
  obtain ⟨o, opened, rfl⟩ := opened_of_manifest manifest
  have same := v.shared o opened
  refine ⟨o, found_eq_ok_iff.mpr ⟨opened, ?_⟩, rfl, same⟩
  rw [same, Computer.run_openState v.holds.seen]
  exact congrArg (Except.mapError ProgramError.store) read

/-- A visit that does not get both a manifest and a state finds none. -/
theorem lost_of_error (error : (∃ e, v.manifest = .error e) ∨ ∃ e, v.state = .error e) :
    ∃ e, v.request.found v.computer = .error e := by
  cases found : v.request.found v.computer with
  | error e => exact ⟨e, rfl⟩
  | ok os =>
    obtain ⟨o, s⟩ := os
    obtain ⟨opened, read⟩ := found_eq_ok_iff.mp found
    rcases error with ⟨e, error⟩ | ⟨e, error⟩
    · rw [Visit.manifest, opened] at error
      cases error
    · rw [v.shared o opened, Computer.run_openState v.holds.seen,
        show stateIn v.before v.computer.clock = .error e from error] at read
      cases read

/-- A visit that finds no manifest or no state only says so. -/
theorem ends_of_lost {e : ProgramError} (lost : v.request.found v.computer = .error e) :
    v.ends = (1, { v.computer with
      errors := v.computer.errors ++ ("Error: " ++ e.message ++ "\n") }) := by
  rw [v.ends_eq, run_of_lost v.palette v.command lost]
  rfl

/-- The computer when the work begins. -/
def begun (v : Visit) (m : Manifest) (s : RecordedState) : Computer :=
  { v.computer with errors := v.computer.errors ++ v.work.remarks s m }

/-- A visit that can read manifest and state does its work and saves the state after it, or the
machine refuses that. -/
theorem ends_of_read (manifest : v.manifest = .ok m) (read : v.state = .ok s) :
    ((v.store.save platform (v.outcome m s).2).run (v.begun m s)).1 = .ok () ∧ v.Done m s ∧
        v.ends.1 = exitCode (v.outcome m s).1 ∧
        v.ends.2.output = v.computer.output ++
          ((v.outcome m s).1.render v.palette v.request.output ++ "\n") ∨
      ∃ message,
        ((v.store.save platform (v.outcome m s).2).run (v.begun m s)).1 = .error (.io message) ∧
        v.after = v.before := by
  obtain ⟨o, found, rfl, same⟩ := found_of_read manifest read
  have holds : v.store.Holds (v.begun o.manifest s) v.before := ⟨v.holds.seen, v.holds.missing⟩
  have run := run_of_found v.palette v.command found
  rw [same] at run
  obtain ⟨tree, ⟨saved, seen, finished⟩ | ⟨message, refused, seen, finished⟩⟩ :=
    run_finish v.palette v.request holds (v.outcome o.manifest s)
  · have ends := v.ends_eq.trans (congrArg ended (run.trans finished))
    refine .inl ⟨congrArg Prod.fst saved, ⟨manifest, read, ?_⟩, congrArg Prod.fst ends, ?_⟩
    · have seen : tree.seen? v.computer.working v.store.file =
          (some (v.outcome o.manifest s).2.json).map .file := seen
      unfold Visit.after
      rw [ends]
      exact storedText_of_seen? seen
    · rw [ends]
      rfl
  · have ends := v.ends_eq.trans (congrArg ended (run.trans finished))
    refine .inr ⟨message, congrArg Prod.fst refused, ?_⟩
    unfold Visit.after
    rw [ends]
    exact storedText_of_seen? seen

/-- After a visit the file holds the state that its work led to, or what it held before. -/
theorem after_eq_or_done (v : Visit) : v.after = v.before ∨ ∃ m s, v.Done m s := by
  have lost (error : (∃ e, v.manifest = .error e) ∨ ∃ e, v.state = .error e) :
      v.after = v.before := by
    obtain ⟨e, lost⟩ := lost_of_error error
    unfold Visit.after
    rw [ends_of_lost lost]
    exact storedText_of_seen? v.holds.seen
  cases manifest : v.manifest with
  | error e => exact .inl (lost (.inl ⟨e, manifest⟩))
  | ok m =>
    cases state : v.state with
    | error e => exact .inl (lost (.inr ⟨e, state⟩))
    | ok s =>
      rcases ends_of_read manifest state with ⟨-, done, -⟩ | ⟨message, -, same⟩
      · exact .inr ⟨m, s, done⟩
      · exact .inl same

/-- The visit showed a report. -/
def Shows (v : Visit) (report : Report) : Prop :=
  v.ends.2.output = v.computer.output ++ (report.render v.palette v.request.output ++ "\n")

/-- A visit that may save its state does its work. -/
theorem done_of_writable (manifest : v.manifest = .ok m) (read : v.state = .ok s)
    (writable : Writable v.store (v.begun m s)) :
    v.Done m s ∧ v.ends.1 = exitCode (v.outcome m s).1 ∧ v.Shows (v.outcome m s).1 := by
  rcases ends_of_read manifest read with ⟨-, done, code, output⟩ | ⟨message, refused, -⟩
  · exact ⟨done, code, output⟩
  · rw [writable] at refused
    cases refused

/-- A visit that syncs begins without a remark. -/
theorem begun_of_sync {cont : Bool} (sync : v.work = .sync cont) : v.begun m s = v.computer := by
  simp only [Visit.begun, sync, Work.remarks, String.append_empty]

/-- What was saved is read back as documents keep it. -/
theorem Done.stateIn_after (done : v.Done m s)
    (current : (v.outcome m s).2.version = RecordedState.currentVersion) (now : Instant) :
    stateIn v.after now = .ok (v.outcome m s).2.kept := by
  rw [done.after]
  exact RecordedState.ofJson_json current

theorem outcome_of_sync {cont : Bool} (work : v.work = .sync cont) : v.outcome m s =
    s.sync v.computer.clock v.computer.numbering v.computer.token cont m := by
  rw [Visit.outcome, work]
  rfl

theorem outcome_of_delete {cont : Bool} (work : v.work = .delete cont) : v.outcome m s =
    s.delete v.computer.clock v.computer.numbering v.computer.token cont m := by
  rw [Visit.outcome, work]
  rfl

/-- An interruption stops calls before they are made. -/
theorem answers_token (v : Visit) : v.computer.token.Answers := by
  unfold Computer.token
  cases v.computer.interruption with
  | none => exact Token.answers_live
  | some n => exact Token.answers_lasting n

/-! ## What a visit did -/

/-- The visit synced what has this kind and name, however far it came. -/
def Syncs (v : Visit) (key : Kind × String) : Prop :=
  ∃ cont m s, v.work = .sync cont ∧ v.Done m s ∧ key ∈ m.resources.map Resource.key

/-- The visit synced what has this kind and name, and came as far as to learn its identifier. -/
def Learns (v : Visit) (key : Kind × String) : Prop :=
  ∃ cont m s, v.work = .sync cont ∧ v.Done m s ∧
    ∃ e ∈ (v.outcome m s).1.entries, e.Identifies key

/-- The visit deleted what has this kind and name under a policy that leaves it where it is, and that
takes it out of the record. -/
def GivesUp (v : Visit) (key : Kind × String) : Prop :=
  ∃ cont m s, v.work = .delete cont ∧ v.Done m s ∧ ∃ e ∈ (v.outcome m s).1.entries, e.GivesUp key

/-- The numbers for new identifiers that are left when the visit has synced. -/
def Leaves (v : Visit) (last : Numbering) : Prop :=
  ∃ cont m s, v.work = .sync cont ∧ v.manifest = .ok m ∧ v.state = .ok s ∧
    m.nextSerial s v.computer.clock v.computer.numbering v.computer.token cont = last

/-- The visit gave this number to a new identifier. -/
def Issues (v : Visit) (n : Nat) : Prop := ∃ last, v.Leaves last ∧ v.computer.numbering.Gives last n

/-- The manifest of the visit has a resource of this kind and name. -/
def Names (v : Visit) (key : Kind × String) : Prop :=
  ∃ m, v.manifest = .ok m ∧ key ∈ m.resources.map Resource.key

end Visit

/-! ## Visits that follow each other -/

/-- The number was given to an identifier by one of the visits. -/
def Issued (vs : List Visit) (n : Nat) : Prop := ∃ v ∈ vs, v.Issues n

/-- A resource of one of the manifests has this kind and name. -/
def Named (vs : List Visit) (key : Kind × String) : Prop := ∃ v ∈ vs, v.Names key

/-- One of the visits gave up what has this kind and name, and none that came later returned to it.
The latest visit comes first. -/
def GivenUp (returned : Visit → Kind × String → Prop) : List Visit → Kind × String → Prop
  | [], _ => False
  | v :: earlier, key => v.GivesUp key ∨ GivenUp returned earlier key ∧ ¬returned v key

/-- One of the visits gave up what has this kind and name, and none that came later learnt of it. -/
def Released : List Visit → Kind × String → Prop := GivenUp Visit.Learns

/-- What the file holds after the visits, of which the latest comes first. -/
def leftBy : List Visit → Option String
  | [] => none
  | v :: _ => v.after

/-- Visits follow each other, of which the latest comes first: each finds what the one before it left,
no manifest declares an identifier, and no number is given away twice. -/
inductive Succession : List Visit → Prop
  | nil : Succession []
  | cons {v : Visit} {vs : List Visit} (earlier : Succession vs) (finds : v.before = leftBy vs)
      (unidentified : ∀ m, v.manifest = .ok m → m.Unidentified)
      (fresh : ∀ last, v.Leaves last → Fresh (Issued vs) v.computer.numbering last) :
      Succession (v :: vs)

variable {v : Visit} {vs : List Visit} {m : Manifest} {s : RecordedState}

theorem natural_of_cons (natural : Natural (Issued (v :: vs)) (Named (v :: vs))) :
    Natural (Issued vs) (Named vs) := by
  rintro n ⟨w, member, issues⟩ k name ⟨w', member', names⟩
  exact natural n ⟨w, List.mem_cons_of_mem v member, issues⟩ k name
    ⟨w', List.mem_cons_of_mem v member', names⟩

theorem issued_cons (n : Nat) : Issued vs n → Issued (v :: vs) n :=
  fun ⟨w, member, issues⟩ => ⟨w, List.mem_cons_of_mem v member, issues⟩

/-- The numbers that a visit gives away are among those of all visits. -/
theorem Visit.Leaves.issued {last : Numbering} (leaves : v.Leaves last) (n : Nat)
    (used : UsedWith (Issued vs) v.computer.numbering last n) : Issued (v :: vs) n :=
  used.elim (issued_cons n) fun given => ⟨v, List.mem_cons_self, last, leaves, given⟩

namespace Visit.Done

variable (done : v.Done m s)
include done

theorem eq {m' : Manifest} {s' : RecordedState} (done' : v.Done m' s') : m' = m ∧ s' = s :=
  ⟨Except.ok.inj (done'.manifest.symm.trans done.manifest),
    Except.ok.inj (done'.state.symm.trans done.state)⟩

theorem named : ∀ r ∈ m.resources, Named (v :: vs) r.key := fun _ member =>
  ⟨v, List.mem_cons_self, m, done.manifest, List.mem_map_of_mem member⟩

theorem leaves {cont : Bool} (work : v.work = .sync cont) :
    v.Leaves (m.nextSerial s v.computer.clock v.computer.numbering v.computer.token cont) :=
  ⟨cont, m, s, work, done.manifest, done.state, rfl⟩

/-- The work leaves a coherent state where it found one. -/
theorem coherent (coherent : Coherent (Released vs) (Issued vs) (Named (v :: vs)) s)
    (unidentified : m.Unidentified)
    (fresh : ∀ last, v.Leaves last → Fresh (Issued vs) v.computer.numbering last)
    (natural : Natural (Issued (v :: vs)) (Named (v :: vs))) :
    Coherent (Released (v :: vs)) (Issued (v :: vs)) (Named (v :: vs)) (v.outcome m s).2 := by
  have accepted := Visit.accepted done.manifest
  cases work : v.work with
  | sync cont =>
    have leaves := done.leaves work
    rw [outcome_of_sync work]
    refine (coherent.sync accepted unidentified done.named _ _ _ cont (fresh _ leaves)
      (natural.mono leaves.issued)).mono ?_ leaves.issued fun _ => id
    rintro key ⟨gone, apart⟩
    refine .inr ⟨gone, ?_⟩
    -- A visit does the work of one manifest on one state only.
    rintro ⟨-, m', s', -, done', learnt⟩
    obtain ⟨rfl, rfl⟩ := done.eq done'
    rw [outcome_of_sync work] at learnt
    exact apart learnt
  | delete cont =>
    -- Nothing is synced, so what was given up before stays so.
    rw [outcome_of_delete work]
    refine (coherent.delete accepted unidentified done.named _ _ v.answers_token cont).mono ?_
      issued_cons fun _ => id
    rintro key (gone | gives)
    · refine .inr ⟨gone, ?_⟩
      rintro ⟨cont', -, -, work', -⟩
      cases work.symm.trans work'
    · exact .inl ⟨cont, m, s, work, done, outcome_of_delete work ▸ gives⟩

end Visit.Done

/-- A state that is coherent for some visits is so with the names of one more. -/
theorem coherent_cons_names (coherent : Coherent (Released vs) (Issued vs) (Named vs) s) :
    Coherent (Released vs) (Issued vs) (Named (v :: vs)) s :=
  coherent.mono (fun _ => id) (fun _ => id) fun _ ⟨w, member, names⟩ =>
    ⟨w, List.mem_cons_of_mem v member, names⟩

/-- The visits leave a state that can be read back, and that is coherent. -/
theorem Succession.coherent (succession : Succession vs)
    (natural : Natural (Issued vs) (Named vs)) (now : Instant) :
    ∃ s, stateIn (leftBy vs) now = .ok s ∧
      Coherent (Released vs) (Issued vs) (Named vs) s := by
  induction succession generalizing now with
  | nil => exact ⟨.new now, rfl, .new now⟩
  | @cons v vs earlier finds unidentified fresh inductionHypothesis =>
    have before := inductionHypothesis (natural_of_cons natural)
    by_cases done : ∃ m s, v.Done m s
    · -- The visit has read the state of the induction hypothesis, and left what documents keep of
      -- its own one.
      obtain ⟨m, s, done⟩ := done
      obtain ⟨s', read, coherent⟩ := before v.computer.clock
      rw [← finds] at read
      obtain rfl := Except.ok.inj (done.state.symm.trans read)
      have coherent := done.coherent (coherent_cons_names coherent) (unidentified m done.manifest)
        fresh natural
      exact ⟨_, done.stateIn_after coherent.current now, coherent.kept⟩
    · -- Nothing was done, so the file holds what the earlier visits left.
      obtain ⟨s, read, coherent⟩ := before now
      have same := v.after_eq_or_done.resolve_right done
      have coherent : Coherent _ _ (Named (v :: vs)) s := coherent_cons_names coherent
      refine ⟨s, by rw [leftBy, same, finds, read], coherent.mono ?_ issued_cons fun _ => id⟩
      exact fun key gone => .inr ⟨gone, fun ⟨_, m, s, _, did, _⟩ => done ⟨m, s, did⟩⟩

/-- A visit that is not interrupted learns of all that it syncs. -/
theorem Succession.learns (succession : Succession vs) (natural : Natural (Issued vs) (Named vs)) :
    ∀ v ∈ vs, v.computer.interruption = none → ∀ key, v.Syncs key → v.Learns key := by
  induction succession with
  | nil => exact fun v member => absurd member List.not_mem_nil
  | @cons v vs earlier finds unidentified fresh inductionHypothesis =>
    have natural' := natural_of_cons natural
    refine List.forall_mem_cons.mpr ⟨?_, inductionHypothesis natural'⟩
    rintro whole key ⟨cont, m, s, work, done, member⟩
    obtain ⟨s', read, coherent⟩ := earlier.coherent natural' v.computer.clock
    rw [← finds] at read
    obtain rfl := Except.ok.inj (done.state.symm.trans read)
    have coherent : Coherent _ _ (Named (v :: vs)) s := coherent_cons_names coherent
    refine ⟨cont, m, s, work, done, ?_⟩
    rw [Visit.outcome_of_sync work, Computer.token, whole]
    exact coherent.sync_identifies (Visit.accepted done.manifest) (unidentified m done.manifest)
      done.named _ _ cont key member

/-! ## A key that is synced and given up -/

theorem Work.version_outcome (work : Work) (c : Computer) (s : RecordedState) (m : Manifest) :
    (work.outcome c s m).2.version = s.version := by
  cases work with
  | sync cont => rfl
  | delete cont => exact version_foldl_release c.clock s _

namespace Sample

def text : String := "resources:\n- kind: key\n  alias: primary\n  deletion_policy: Orphan\n"

/-- The manifest of that text, completed. -/
def manifest : Manifest :=
  let key : Spec .cryptoKey :=
    .ofDesired .cryptoKey "primary" ⟨"", .encryptDecrypt, .symmetricDefault, none, false, none⟩
  let declared : Spec .cryptoKey :=
    { key with shared := { key.shared with deletionPolicy := some "Orphan" } }
  ⟨.empty, defaultSnapshotStem, [(⟨.cryptoKey, declared⟩ : Resource).prepare.1]⟩

def path : Path := ⟨false, ["infra.yaml"]⟩

def store : Store := .ofFile ⟨false, ["state.json"]⟩

/-- A computer with that manifest, and perhaps a state.  Two streams have no number in common. -/
def computer (interruption : Option Nat) (stream : Nat) (state : Option String) : Computer where
  tree := ⟨(["infra.yaml"], .file text) ::
    (state.map fun text => (["state.json"], FileEntry.file text)).toList⟩
  working := []
  environment := .empty
  input := []
  output := ""
  errors := ""
  clock := .epoch
  serial := 0
  number := Nat.pair stream
  interruption := interruption

def arguments (work : Work) : List String :=
  ["--manifest", "infra.yaml", "--state", "state.json"] ++
    match work with
    | .sync cont => "sync" :: continuing cont
    | .delete cont => "delete" :: "--yes" :: continuing cont
where
  continuing (cont : Bool) : List String := if cont then ["--continue-on-error"] else []

def request (work : Work) : Request where
  command := work.command
  manifest := some path
  state := some ⟨false, ["state.json"]⟩
  output := .text
  verbose := false
  logFormat := .text

theorem eq_ok_of_toOption {ε α : Type} {x : Except ε α} {a : α} (same : x.toOption = some a) :
    x = .ok a := by
  cases x with
  | error e => cases same
  | ok b => exact congrArg Except.ok (Option.some.inj same)

section

variable (work : Work) (interruption : Option Nat) (stream : Nat) (state : Option String)

theorem asked : requestOn (computer interruption stream state) (arguments work) =
    .ok (request work) := by
  show requestOn (computer none 0 none) (arguments work) = .ok (request work)
  cases work with
  | sync cont => cases cont <;> exact eq_ok_of_toOption (by decide +kernel)
  | delete cont => cases cont <;> exact eq_ok_of_toOption (by decide +kernel)

theorem holds : store.Holds (computer interruption stream state) state := by
  have folder : store.folder = ⟨false, []⟩ := by decide +kernel
  have seen : (computer interruption stream state).tree.seen? [] store.file = state.map .file := by
    cases state <;> rfl
  refine ⟨seen, fun missing tree made => ?_⟩
  rw [folder] at made
  obtain rfl := Except.ok.inj made
  exact missing ▸ seen

def visit : Visit where
  palette := .plain
  arguments := arguments work
  computer := computer interruption stream state
  request := request work
  work := work
  store := store
  before := state
  asked := asked work interruption stream state
  command := rfl
  shared _ _ := rfl
  holds := holds interruption stream state

theorem before_visit : (visit work interruption stream state).before = state := rfl

/-- Whatever was recorded before, a visit finds the manifest. -/
theorem manifest_visit : (visit work interruption stream state).manifest = .ok manifest := by
  have bare : (computer interruption stream state).tree.seen? []
      (path.folder.child EnvFile.fileName) = none := by
    cases state <;> rfl
  have opened : (request work).opened (computer interruption stream state) =
      openedText .empty path text := opened_of_seen rfl rfl bare
  show ((request work).opened (computer interruption stream state)).map OpenManifest.manifest = _
  rw [opened]
  exact eq_ok_of_toOption (by decide +kernel)

theorem writable (errors : String) :
    Writable store { computer interruption stream state with errors := errors } := by
  intro s
  unfold Store.save
  generalize s.json = text
  cases state <;> rfl

end

/-! ### Visits one after the other -/

/-- Visits on computers of their own, each with some work that may be interrupted.  The latest visit
comes first. -/
def visits : List (Work × Option Nat) → List Visit
  | [] => []
  | (work, interruption) :: acts =>
    visit work interruption acts.length (leftBy (visits acts)) :: visits acts

/-- The state that the visits leave. -/
def left : List (Work × Option Nat) → RecordedState
  | [] => .new .epoch
  | (work, interruption) :: acts =>
    (work.outcome (computer interruption acts.length none) (left acts) manifest).2.kept

variable {acts : List (Work × Option Nat)} {v : Visit}

theorem manifest_of_mem (member : v ∈ visits acts) : v.manifest = .ok manifest := by
  induction acts with
  | nil => exact absurd member List.not_mem_nil
  | cons act acts inductionHypothesis =>
    rcases List.mem_cons.mp member with rfl | member
    · exact manifest_visit ..
    · exact inductionHypothesis member

/-- The numbers that a visit gives away are from its own stream. -/
theorem unpair_of_gives {interruption : Option Nat} {stream n : Nat} {state : Option String}
    {last : Numbering} (given : (computer interruption stream state).numbering.Gives last n) :
    n.unpair.1 = stream := by
  obtain ⟨i, -, -, rfl⟩ := given
  exact congrArg Prod.fst (Nat.unpair_pair stream i)

theorem unpair_lt_of_issued {n : Nat} (issued : Issued (visits acts) n) : n.unpair.1 < acts.length := by
  induction acts with
  | nil =>
    obtain ⟨v, member, -⟩ := issued
    exact absurd member List.not_mem_nil
  | cons act acts inductionHypothesis =>
    obtain ⟨v, member, last, leaves, given⟩ := issued
    rw [List.length_cons]
    rcases List.mem_cons.mp member with rfl | member
    · exact (unpair_of_gives given).trans_lt (Nat.lt_succ_self _)
    · exact (inductionHypothesis ⟨v, member, last, leaves, given⟩).trans (Nat.lt_succ_self _)

theorem succession (acts : List (Work × Option Nat)) : Succession (visits acts) := by
  induction acts with
  | nil => exact .nil
  | cons act acts inductionHypothesis =>
    refine .cons inductionHypothesis rfl (fun m same => ?_) fun last _ => ⟨fun n given issued => ?_, ?_⟩
    · obtain rfl := Except.ok.inj ((manifest_visit ..).symm.trans same)
      intro r member
      obtain rfl := List.mem_singleton.mp member
      rfl
    · exact absurd (unpair_of_gives given) (unpair_lt_of_issued issued).ne
    · intro i j _ less _ same
      exact less.ne (Nat.pair_eq_pair.mp same).2

/-- The name of the key begins with another letter than the identifiers of keys. -/
theorem natural (acts : List (Work × Option Nat)) :
    Natural (Issued (visits acts)) (Named (visits acts)) := by
  rintro n - k name ⟨v, member, m, same, named⟩ identifier
  obtain rfl := Except.ok.inj ((manifest_of_mem member).symm.trans same)
  have keys : manifest.resources.map Resource.key = [(.cryptoKey, "alias/primary")] := by
    decide +kernel
  rw [keys] at named
  obtain ⟨rfl, rfl⟩ := Prod.mk.inj (List.mem_singleton.mp named)
  have letters := congrArg (fun text => text.toList.head?) identifier
  simp only [Kind.identifier, String.toList_append] at letters
  have first : some 'a' = some 'k' := letters
  exact absurd first (by decide)

theorem version_left (acts : List (Work × Option Nat)) :
    (left acts).version = RecordedState.currentVersion := by
  induction acts with
  | nil => rfl
  | cons act acts inductionHypothesis => exact (act.1.version_outcome ..).trans inductionHypothesis

/-- What a visit does to a state has nothing to do with the text that it found. -/
theorem outcome_visit (work : Work) (interruption : Option Nat) (stream : Nat)
    (state : Option String) (m : Manifest) (s : RecordedState) :
    (visit work interruption stream state).outcome m s =
      work.outcome (computer interruption stream none) s m := by
  cases work <;> rfl

theorem done_visit {state : Option String} {s : RecordedState}
    (read : stateIn state .epoch = .ok s) (work : Work) (interruption : Option Nat) (stream : Nat) :
    (visit work interruption stream state).Done manifest s :=
  (Visit.done_of_writable (manifest_visit work interruption stream state) read
    (writable interruption stream state _)).1

/-- Each visit does its work on the state that the one before it left. -/
theorem stateIn_leftBy (acts : List (Work × Option Nat)) :
    stateIn (leftBy (visits acts)) .epoch = .ok (left acts) := by
  induction acts with
  | nil => rfl
  | cons act acts inductionHypothesis =>
    obtain ⟨work, interruption⟩ := act
    have done := done_visit inductionHypothesis work interruption acts.length
    have current := version_left ((work, interruption) :: acts)
    have outcome := outcome_visit work interruption acts.length (leftBy (visits acts)) manifest
      (left acts)
    refine (done.stateIn_after (outcome ▸ current) .epoch).trans ?_
    rw [outcome]
    rfl

/-- The key is synced, then it is given up, and then it is synced by a visit that is interrupted before
its first call. -/
def history : List (Work × Option Nat) :=
  [(.sync false, some 0), (.delete false, none), (.sync false, none)]

/-- A visit after these, which is not interrupted. -/
def later : Visit := visit (.sync false) none 3 (leftBy (visits history))

/-- The same once more. -/
def again : Visit := visit (.sync false) none 4 later.after

theorem before_again : again.before = later.after := before_visit ..

theorem succession_later : Succession (later :: visits history) :=
  succession ((.sync false, none) :: history)

theorem natural_later : Natural (Issued (later :: visits history)) (Named (later :: visits history)) :=
  natural ((.sync false, none) :: history)

end Sample

end DesiredState.CommandLine
