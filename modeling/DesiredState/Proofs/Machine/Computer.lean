import DesiredState.CommandLine.Program
import DesiredState.Machine.Computer

/-!
# Programs on computers

A program on a computer is a function of the computer.  This module says what such a function does
for each way of putting programs together, and that looking things up changes nothing.

Contents:

* `Attempt.run_bind`, `Attempt.run_lift` — programs step by step.
* `Computer.run_findM?_isPresent` — looking for the first path that is there.
* `Looks` — a program that leaves the computer as it is.
* `Looks.openManifest`, `Looks.openState` — opening manifest and state.
-/

namespace DesiredState

variable {α β : Type}

/-! ## Steps -/

namespace Attempt

theorem run_bind (act : Attempt (StateM Computer) β) (rest : β → Attempt (StateM Computer) α)
    (c : Computer) :
    (act >>= rest).run c =
      match act.run c with
      | (.ok b, c') => (rest b).run c'
      | (.error e, c') => (.error e, c') := by
  rw [ExceptT.run_bind]
  show (act.run >>= _) _ = _
  simp only [StateT.bind, Bind.bind]
  rcases act.run c with ⟨e | b, c'⟩ <;> rfl

theorem run_lift (act : StateM Computer α) (c : Computer) :
    (liftM act : Attempt (StateM Computer) α).run c = (.ok (act c).1, (act c).2) := rfl

end Attempt

namespace Computer

/-- Looking for the first path that is there changes nothing. -/
theorem run_findM?_isPresent (c : Computer) (ps : List Path) :
    (ps.findM? Computer.platform.isPresent : StateM Computer (Option Path)) c =
      (ps.find? (c.tree.isPresent c.working), c) := by
  induction ps with
  | nil => rfl
  | cons p ps inductionHypothesis =>
    have step : ((p :: ps).findM? Computer.platform.isPresent : StateM Computer (Option Path)) c =
        (match c.tree.isPresent c.working p with
        | true => pure (some p)
        | false => ps.findM? Computer.platform.isPresent : StateM Computer (Option Path)) c := rfl
    rw [step, List.find?_cons]
    cases c.tree.isPresent c.working p with
    | true => rfl
    | false => exact inductionHypothesis

/-- Where nothing else is defined a variable has the value that it has in the environment. -/
theorem run_lookUp_empty (name : String) (c : Computer) :
    Computer.platform.lookUp .empty name c = (c.environment.get? name, c) := by
  have asked : Computer.platform.environment? name c = (c.environment.get? name, c) := rfl
  unfold Platform.lookUp
  simp only [StateT.bind, Bind.bind, asked]
  cases c.environment.get? name <;> rfl

end Computer

/-! ## Looking -/

/-- A program that leaves the computer as it is. -/
def Looks (act : StateM Computer α) : Prop := ∀ c, (act c).2 = c

namespace Looks

theorem pure (a : α) : Looks (Pure.pure a : StateM Computer α) := fun _ => rfl

theorem bind {act : StateM Computer β} {rest : β → StateM Computer α} (first : Looks act)
    (second : ∀ b, Looks (rest b)) : Looks (act >>= rest) := fun c =>
  (second (act c).1 (act c).2).trans (first c)

theorem throw (e : ProgramError) : Looks (MonadExcept.throw e : Attempt (StateM Computer) α).run :=
  fun _ => rfl

theorem lift {act : StateM Computer α} (looks : Looks act) :
    Looks (liftM act : Attempt (StateM Computer) α).run := looks

theorem andThen {act : Attempt (StateM Computer) β} {rest : β → Attempt (StateM Computer) α}
    (first : Looks act.run) (second : ∀ b, Looks (rest b).run) : Looks (act >>= rest).run := by
  intro c
  rw [Attempt.run_bind]
  have same := first c
  generalize act.run c = ended at same ⊢
  obtain ⟨e | b, c'⟩ := ended
  · exact same
  · exact (second b c').trans same

theorem isPresent (p : Path) : Looks (Computer.platform.isPresent p) := fun _ => rfl

theorem readText (p : Path) : Looks (Computer.platform.readText p) := fun _ => rfl

theorem environment? (name : String) : Looks (Computer.platform.environment? name) := fun _ => rfl

theorem now : Looks Computer.platform.now := fun _ => rfl

/-! ## Manifest and state -/

theorem lookUp (defined : Dict String) (name : String) :
    Looks (Computer.platform.lookUp defined name) := by
  refine bind (environment? name) fun found => ?_
  cases found <;> exact pure _

theorem findM? {f : α → StateM Computer Bool} (looks : ∀ a, Looks (f a)) (as : List α) :
    Looks (as.findM? f) := by
  induction as with
  | nil => exact pure _
  | cons a rest inductionHypothesis =>
    refine bind (looks a) fun found => ?_
    cases found
    · exact inductionHypothesis
    · exact pure _

theorem mapM {f : α → StateM Computer β} (looks : ∀ a, Looks (f a)) (as : List α) :
    Looks (as.mapM f) := by
  induction as with
  | nil => exact pure _
  | cons a rest inductionHypothesis =>
    rw [List.mapM_cons]
    exact bind (looks a) fun _ => bind inductionHypothesis fun _ => pure _

theorem resolve (defined : Dict String) (ds : List EnvFile.Definition) :
    Looks (EnvFile.resolve Computer.platform defined ds) := by
  induction ds generalizing defined with
  | nil => exact pure _
  | cons d rest inductionHypothesis =>
    have piece : ∀ p : EnvFile.Piece, Looks (p.text Computer.platform defined) := by
      rintro (c | name)
      · exact pure _
      · exact bind (lookUp defined name) fun _ => pure _
    refine bind (mapM piece d.value) fun texts => bind (lookUp defined d.name) fun found => ?_
    cases found
    · exact inductionHypothesis _
    · exact inductionHypothesis _

theorem loadEnvironment (folder : Path) : Looks (EnvFile.load Computer.platform folder).run := by
  unfold EnvFile.load
  refine andThen (lift (isPresent _)) fun present => ?_
  cases present
  · exact pure _
  · refine andThen (lift (readText _)) fun answer => ?_
    cases answer with
    | error cause => exact throw _
    | ok text =>
      dsimp only
      split
      · exact throw _
      · exact lift (resolve _ _)

theorem loadManifest (defined : Dict String) (path : Path) :
    Looks (Manifest.load Computer.platform defined path).run := by
  have read : Looks (Manifest.read Computer.platform path).run := by
    unfold Manifest.read
    refine andThen (lift (isPresent _)) fun present => ?_
    cases present
    · exact throw _
    · refine andThen (lift (readText _)) fun answer => ?_
      cases answer with
      | error cause => exact throw _
      | ok text =>
        dsimp only
        split
        · exact pure _
        · exact throw _
  exact andThen read fun _ => andThen (lift (lookUp _ _)) fun _ => pure _

theorem openManifest (path? : Option Path) :
    Looks (CommandLine.openManifest Computer.platform path?).run := by
  have find : Looks (Manifest.find Computer.platform .here).run := by
    refine andThen (lift (findM? isPresent _)) fun found => ?_
    cases found
    · exact throw _
    · exact pure _
  unfold CommandLine.openManifest
  dsimp only
  split
  · refine andThen (pure _) fun path => andThen (loadEnvironment _) fun _ =>
      andThen (loadManifest _ _) fun manifest => ?_
    split
    · exact pure _
    · exact throw _
  · refine andThen find fun path => andThen (loadEnvironment _) fun _ =>
      andThen (loadManifest _ _) fun manifest => ?_
    split
    · exact pure _
    · exact throw _

theorem openState (store : Store) : Looks (CommandLine.openState Computer.platform store).run := by
  have load : Looks (store.load Computer.platform).run := by
    unfold Store.load
    refine andThen (lift (isPresent _)) fun present => ?_
    cases present
    · exact pure _
    · refine andThen (lift (readText _)) fun answer => ?_
      cases answer with
      | error cause => exact throw _
      | ok text =>
        dsimp only
        split
        · exact pure _
        · exact throw _
  refine andThen load fun state => ?_
  cases state
  · exact andThen (lift now) fun _ => pure _
  · exact pure _

end Looks

end DesiredState
