import DesiredState.Proofs.Files.FileTree
import DesiredState.Proofs.Machine.Computer

/-!
# What a store keeps

A store whose file holds a text gives the state in that text.  Saving a state puts its text into the
file, or the machine refuses and the file holds what it held before; it is never half written.

Contents:

* `Store.Holds` — the text in the file of a store.
* `stateIn`, `run_openState` — the state that a run begins with.
* `run_save` — what saving comes to.
-/

namespace DesiredState

/-- The file of a store holds a text, or there is none, not even once the folder of the store has
been made: a path that leads up again could lead through that folder to a file elsewhere. -/
structure Store.Holds (store : Store) (c : Computer) (text : Option String) : Prop where
  seen : c.tree.seen? c.working store.file = text.map .file
  missing : text = none → ∀ tree, c.tree.makeFolders c.working store.folder = .ok tree →
    tree.seen? c.working store.file = none

theorem Store.Holds.covered {store : Store} {c : Computer} {text : Option String}
    (holds : store.Holds c text) {tree : FileTree}
    (made : c.tree.makeFolders c.working store.folder = .ok tree) :
    tree.seen? c.working store.file = text.map .file := by
  cases text with
  | none => exact holds.missing rfl tree made
  | some text => exact FileTree.seen?_makeFolders made holds.seen

/-- The state in a text; a new one if there is no text. -/
def stateIn (text : Option String) (now : Instant) : Except StoreError RecordedState :=
  match text with
  | some text => RecordedState.ofJson text
  | none => .ok (.new now)

namespace Computer

variable {store : Store} {c : Computer} {text : Option String}

theorem run_load (seen : c.tree.seen? c.working store.file = text.map .file) :
    (store.load platform).run c =
      (text.elim (.ok none) fun text => ((RecordedState.ofJson text).map some).mapError .store,
        c) := by
  have present : store.isPresent platform c = (text.isSome, c) := by
    show (c.tree.isPresent c.working store.file, c) = _
    rw [FileTree.isPresent_eq, seen, Option.isSome_map]
  unfold Store.load
  rw [Attempt.run_bind, Attempt.run_lift, present]
  cases text with
  | none => rfl
  | some text =>
    have read : platform.readText store.file c = (.ok text, c) := by
      show ((c.tree.read c.working store.file).mapError FileError.message, c) = _
      rw [FileTree.read_of_seen? seen]
      rfl
    simp only [Option.isSome_some, Bool.not_true, Bool.false_eq_true, if_false]
    rw [Attempt.run_bind, Attempt.run_lift, read]
    simp only [Option.elim_some]
    cases RecordedState.ofJson text <;> rfl

theorem run_openState (seen : c.tree.seen? c.working store.file = text.map .file) :
    (CommandLine.openState platform store).run c = ((stateIn text c.clock).mapError .store, c) := by
  unfold CommandLine.openState
  rw [Attempt.run_bind, run_load seen]
  cases text with
  | none => rfl
  | some text =>
    simp only [Option.elim_some, stateIn]
    cases RecordedState.ofJson text <;> rfl

/-- A change of the files is made, or the machine refuses it. -/
theorem run_change (f : FileTree → List String → Except FileError FileTree) (c : Computer) :
    (attempt (change f)).run c =
      match f c.tree c.working with
      | .ok tree => (.ok (), { c with tree := tree })
      | .error e => (.error (.io e.message), c) := by
  unfold attempt change
  rw [Attempt.run_bind, Attempt.run_lift]
  simp only [bind, StateT.bind, get, getThe, MonadStateOf.get, StateT.get, pure]
  cases f c.tree c.working <;> rfl

/-- Making the folder of a store does not touch its file. -/
theorem run_makeFolder (holds : store.Holds c text) :
    ∃ answer tree, (store.makeFolder platform).run c = (answer, { c with tree := tree }) ∧
      (answer = .ok () ∨ ∃ message, answer = .error (.io message)) ∧
      tree.seen? c.working store.file = text.map .file := by
  unfold Store.makeFolder
  split
  · rw [Attempt.run_bind, Attempt.run_lift]
    dsimp only
    split
    · have ran := run_change (fun tree working => tree.makeFolders working store.folder) c
      cases made : c.tree.makeFolders c.working store.folder with
      | ok tree =>
        simp only [made] at ran
        exact ⟨_, tree, ran, .inl rfl, holds.covered made⟩
      | error e =>
        simp only [made] at ran
        exact ⟨_, c.tree, ran, .inr ⟨_, rfl⟩, holds.seen⟩
    · exact ⟨.ok (), c.tree, rfl, .inl rfl, holds.seen⟩
  · exact ⟨.ok (), c.tree, rfl, .inl rfl, holds.seen⟩

/-- The text is written beside the file and moved over it. -/
theorem run_save (holds : store.Holds c text) (s : RecordedState) :
    ∃ answer tree, (store.save platform s).run c = (answer, { c with tree := tree }) ∧
      (answer = .ok () ∧ tree.seen? c.working store.file = some (.file s.json) ∨
        (∃ message, answer = .error (.io message)) ∧
          tree.seen? c.working store.file = text.map .file) := by
  obtain ⟨answer, tree, made, ends, seen⟩ := run_makeFolder holds
  unfold Store.save
  rw [Attempt.run_bind, made]
  rcases ends with rfl | ⟨message, rfl⟩
  case inr => exact ⟨_, tree, rfl, .inr ⟨⟨message, rfl⟩, seen⟩⟩
  generalize drafted : store.file.withExtension "tmp" = draft
  have write : (attempt (platform.writeText draft s.json)).run { c with tree := tree } = _ :=
    run_change (fun t working => t.write working draft s.json) { c with tree := tree }
  dsimp only at write ⊢
  rw [Attempt.run_bind, write]
  cases wrote : tree.write c.working draft s.json with
  | error e => exact ⟨.error (.io e.message), tree, rfl, .inr ⟨⟨_, rfl⟩, seen⟩⟩
  | ok tree' =>
    have move : (attempt (platform.moveFile draft store.file)).run { c with tree := tree' } = _ :=
      run_change (fun t working => t.move working draft store.file) { c with tree := tree' }
    dsimp only at move ⊢
    rw [move]
    have source := FileTree.seen?_write wrote rfl
    cases moved : tree'.move c.working draft store.file with
    | ok tree'' =>
      exact ⟨.ok (), tree'', rfl, .inl ⟨rfl, FileTree.seen?_move moved source⟩⟩
    | error e =>
      refine ⟨.error (.io e.message), tree', rfl, .inr ⟨⟨_, rfl⟩, ?_⟩⟩
      -- A draft in the place of the file could have been moved, so it has a place of its own.
      rw [FileTree.seen?_write_of_ne wrote, seen]
      intro same
      have folders := FileTree.isFolder_of_write wrote
      obtain ⟨tree'', could⟩ := FileTree.move_of_place?_eq source (q := store.file)
        (by rw [FileTree.place?_congr folders, FileTree.place?_congr folders, same])
      cases moved.symm.trans could

end Computer

end DesiredState
