import DesiredState.Proofs.Reconcile.Convergence
import DesiredState.Proofs.Reconcile.Simulation
import DesiredState.Proofs.Reconcile.Timeless
import DesiredState.Proofs.Resource.Difference

/-!
# What warnings stand for

A sync that answers has done everything but the changes of which it warns.  These are best-effort
changes; they are exactly what the resource still differs by, and making them would lead to the
resource with which a sync without faults ends.  All the rest of the sync is done as ever: the tags,
the second reading, and the time.

Contents:

* `Attempted.missed_eq`, `Attempted.done_eq` — the two parts of a list of changes.
* `Attempted.diff_eq`, `Attempted.applyAll_eq` — what missed changes leave to be done.
* `PartlyDone`, `WhollyDone` — a sync that answers, and one without faults from the same start.
* `sync_partial` — the main result.
-/

namespace DesiredState

variable {k : Kind} {s s' : Spec k} {clock clock' now now' : Instant} {w w' : Simulator k}
  {h : HostedOf k} {o o' : SyncOutcome k}

/-! ## Made and missed -/

namespace Attempted

variable {cs done missed : List k.Change} {warnings : List Warning}

theorem bestEffort (attempted : Attempted cs done missed warnings) :
    ∀ c ∈ missed, k.rules.isBestEffort c = true := by
  induction attempted with
  | nil => exact fun c member => absurd member List.not_mem_nil
  | made _ _ inductionHypothesis => exact inductionHypothesis
  | missed bestEffort _ _ inductionHypothesis =>
    exact List.forall_mem_cons.mpr ⟨bestEffort, inductionHypothesis⟩

theorem steps (attempted : Attempted cs done missed warnings) :
    warnings.map Warning.step = missed.map k.rules.changeText := by
  induction attempted with
  | nil => rfl
  | made _ _ inductionHypothesis => exact inductionHypothesis
  | missed _ _ _ inductionHypothesis =>
    rw [List.map_cons, List.map_cons, inductionHypothesis]

theorem perm (attempted : Attempted cs done missed warnings) : (done ++ missed).Perm cs := by
  induction attempted with
  | nil => exact .nil
  | made c _ inductionHypothesis => exact inductionHypothesis.cons c
  | missed _ _ _ inductionHypothesis =>
    exact List.perm_middle.trans (inductionHypothesis.cons _)

theorem missed_part (attempted : Attempted cs done missed warnings) : missed.Sublist cs := by
  induction attempted with
  | nil => exact .slnil
  | made c _ inductionHypothesis => exact inductionHypothesis.cons c
  | missed _ _ _ inductionHypothesis => exact inductionHypothesis.cons_cons _

theorem missed_eq (attempted : Attempted cs done missed warnings) (distinct : cs.Nodup) :
    cs.filter (· ∉ done) = missed :=
  filter_not_mem_eq distinct attempted.missed_part attempted.perm

theorem done_eq (attempted : Attempted cs done missed warnings) (distinct : cs.Nodup) :
    cs.filter (· ∉ missed) = done :=
  filter_not_mem_eq distinct attempted.part (List.perm_append_comm.trans attempted.perm)

/-- What a specification still wants of the resource is what was missed. -/
theorem diff_eq (attempted : Attempted (s.diff h) done missed warnings) :
    s.diff (h.applyAll done) = missed := by
  have distinct := s.nodup_diff h
  rw [← attempted.missed_eq distinct]
  exact Spec.diff_applyAll (attempted.part.nodup distinct) attempted.part.subset

/-- Making what was missed would lead to the settled resource. -/
theorem applyAll_eq (attempted : Attempted (s.diff h) done missed warnings) :
    (s.leaves h done).applyAll missed = s.settled h := by
  have whole := k.changeLaws.applyAll_diff_applyAll attempted.part
  have missed : k.rules.diff s.desired (k.rules.applyAll done h.attributes) = missed :=
    attempted.diff_eq
  rw [missed] at whole
  simp only [Spec.leaves, Hosted.applyAll, Spec.settled, Spec.diff, whole]

end Attempted

/-! ## A sync that answers -/

/-- A sync answered: to the resource `b` it made all changes but the missed ones, of which it warns,
and that resource is hosted as `h` now. -/
structure PartlyDone (b : HostedOf k) (o : SyncOutcome k) (s' : Spec k)
    (hosted' : Dict (HostedOf k)) (missed : List k.Change) (h : HostedOf k) : Prop where
  bestEffort : ∀ c ∈ missed, k.rules.isBestEffort c = true
  warnings : o.warnings.map Warning.step = missed.map k.rules.changeText
  there : hosted'.get? s'.identifier = some h
  attributes : h.attributes = k.rules.applyAll o.applied b.attributes
  diff : s'.diff h = missed
  tagged : ∀ key value, s'.shared.tags.get? key = some value → h.tags.get? key = some value
  plan : Engine.tagPlan s' h.tags = .empty
  observed : s'.observed = k.rules.observe h.identifier h.attributes

theorem Answered.partlyDone {missed : List k.Change} (answered : Answered s clock now w o s' w')
    (attempted : Attempted (s.diff (s.origin clock w)) o.applied missed o.warnings) :
    PartlyDone (s.origin clock w) o s' w'.hosted missed (s.leaves (s.origin clock w) o.applied) := by
  obtain ⟨-, rfl, hosted⟩ := answered
  exact {
    bestEffort := attempted.bestEffort
    warnings := attempted.steps
    there := by
      rw [hosted]
      exact Dict.get?_insert_self ..
    attributes := rfl
    diff := attempted.diff_eq
    tagged := fun _ _ desired => Spec.get?_settledTags desired _
    plan := Spec.tagPlan_settledTags (s.synced now _) _
    observed := rfl }

/-- A sync without faults from the same start makes the missed changes too: its resource `g` is what
the missed changes make of `h`, and all other resources are the same. -/
structure WhollyDone (b : HostedOf k) (o : SyncOutcome k) (s' : Spec k)
    (hosted' : Dict (HostedOf k)) (missed : List k.Change) (h : HostedOf k) (o' : SyncOutcome k)
    (s'' : Spec k) (hosted'' : Dict (HostedOf k)) (g : HostedOf k) : Prop where
  warnings : o'.warnings = []
  part : missed.Sublist o'.applied
  applied : o.applied = o'.applied.filter (· ∉ missed)
  identifier : s''.identifier = s'.identifier
  there : hosted''.get? s''.identifier = some g
  attributes : k.timeless g.attributes = k.timeless (k.rules.applyAll o'.applied b.attributes)
  completed : (h.applyAll missed).timeless = g.timeless
  others : ∀ key, key ≠ s'.identifier → hosted'.get? key = hosted''.get? key

theorem Answered.whollyDone {missed : List k.Change} {s'' : Spec k} {w'' : Simulator k}
    (answered : Answered s clock now w o s' w')
    (attempted : Attempted (s.diff (s.origin clock w)) o.applied missed o.warnings)
    (finished : Finished s clock' now' w.calm o' s'' w'') :
    WhollyDone (s.origin clock w) o s' w'.hosted missed (s.leaves (s.origin clock w) o.applied)
      o' s'' w''.hosted (s.settled (s.origin clock' w)) := by
  obtain ⟨-, rfl, hosted⟩ := answered
  obtain ⟨warnings, applied, rfl, world⟩ := finished
  -- The calm host holds the same resources, so both syncs begin with the same one but for the time.
  have begins : s.origin clock' w.calm = s.origin clock' w := rfl
  rw [begins] at applied world
  have identifier := s.identifier_origin clock' clock w
  have changes : o'.applied = s.diff (s.origin clock w) := by
    rw [applied, ← s.diff_timeless, s.timeless_origin clock' clock, s.diff_timeless]
  have distinct : (s.diff (s.origin clock w)).Nodup := k.changeLaws.nodup_diff ..
  have ends := s.timeless_settled_origin clock clock' w
  exact {
    warnings := warnings
    part := changes ▸ attempted.missed_part
    applied := by rw [changes, attempted.done_eq distinct]
    identifier := identifier
    there := by
      rw [world.hosted]
      exact Dict.get?_insert_self ..
    attributes := by
      rw [changes]
      exact congrArg Hosted.attributes ends.symm
    completed := by rw [attempted.applyAll_eq, ends]
    others := by
      intro key other
      have other : key ≠ (s.origin clock w).identifier := other
      rw [hosted, world.hosted, identifier, Dict.get?_insert_of_ne _ _ other,
        Dict.get?_insert_of_ne _ _ other]
      rfl }

/-! ## The main result -/

/-- Under whatever token and whatever faults, a sync that answers missed only the best-effort changes
of which it warns.  A sync without faults from the same start makes these changes too, and nothing
else sets the two apart but the clock. -/
theorem sync_partial (settings : RunSettings) (clock now : Instant) (consistent : Consistent w.hosted)
    (placed : s.Placed w.hosted) {token : Token} {last : Session k (Simulator k)}
    (ran : ((settings.engine clock k).sync now).run ⟨s, w, token⟩ = (.ok o, last)) :
    ∃ missed h,
      PartlyDone (s.prepare.1.origin clock w) o last.spec last.world.hosted missed h ∧
        ∀ clock' now', ((settings.engine clock' k).sync now').Ensures s w.calm
          fun answer s' w' => ∃ o' g, answer = .ok o' ∧
            WhollyDone (s.prepare.1.origin clock w) o last.spec last.world.hosted missed h o' s'
              w'.hosted g := by
  have live := (settings.engine clock k).run_sync_live now ran
  have accepted : s.prepare.2 = .ok () := by
    cases verdict : s.prepare.2 with
    | ok => rfl
    | error v => nomatch ((Run.Ensures.sync_refused verdict).elim live).1.1
  have answered := ((Run.Ensures.sync accepted consistent placed).elim live).1.answered
  obtain ⟨missed, attempted⟩ := answered.attempted
  refine ⟨missed, _, answered.partlyDone attempted, fun clock' now' => ?_⟩
  refine (Run.Ensures.sync_quiet (w := w.calm) accepted consistent placed fun _ => rfl).mono ?_
  rintro _ s' w' ⟨o', rfl, finished⟩
  exact ⟨o', _, rfl, answered.whollyDone attempted finished⟩

/-! ## A table without backups -/

namespace Sample

/-- A hosted table without tags and without continuous backups. -/
def events : HostedOf .table :=
  ⟨"table-0", "events", .empty, ⟨.payPerRequest, none, false, Table.activeStatus, 0⟩⟩

/-- The same table as it should be, known by its name only. -/
def backed : Spec .table where
  name := "events"
  desired := { Table.Desired.ofKey "id" with pointInTimeRecovery := true }
  shared := .ofTags (Dict.empty.insert "env" "prod")
  observed := Table.rules.unobserved

/-- The host of the table; its next update fails. -/
def unsteady : Simulator .table :=
  ⟨⟨Dict.empty.insert events.identifier events, [],
    fun op => if op = .update then some (.rejected "no backups today") else none⟩, 1⟩

theorem consistent_unsteady : Consistent unsteady.hosted :=
  Consistent.empty.insert (by decide)

/-- What a sync of the table answers, and what it leaves. -/
def backing : Except Failure (SyncOutcome .table) × Session .table (Simulator .table) :=
  ((({} : RunSettings).engine .epoch .table).sync .epoch).run ⟨backed, unsteady, .live⟩

end Sample

theorem sync_partial_table :
    ∃ o missed h,
      Sample.backing.1 = .ok o ∧ o.warnings.map Warning.step = ["PointInTimeRecovery(true)"] ∧
        PartlyDone Sample.events o Sample.backing.2.spec Sample.backing.2.world.hosted missed h ∧
        ((({} : RunSettings).engine .epoch .table).sync .epoch).Ensures Sample.backed
          Sample.unsteady.calm fun answer s' w' => ∃ o' g, answer = .ok o' ∧
            WhollyDone Sample.events o Sample.backing.2.spec Sample.backing.2.world.hosted missed h o'
              s' w'.hosted g := by
  have steps : (Sample.backing.1.toOption.map fun o => o.warnings.map Warning.step) =
      some ["PointInTimeRecovery(true)"] := by decide
  cases answer : Sample.backing.1 with
  | error f => simp [answer, Except.toOption] at steps
  | ok o =>
    simp only [answer, Except.toOption, Option.map_some, Option.some.injEq] at steps
    have ran : Sample.backing = (.ok o, Sample.backing.2) := Prod.ext answer rfl
    obtain ⟨missed, h, partly, wholly⟩ :=
      sync_partial {} .epoch .epoch Sample.consistent_unsteady (.inl rfl) ran
    have begins : Sample.backed.prepare.1.origin .epoch Sample.unsteady = Sample.events := by decide
    rw [begins] at partly wholly
    exact ⟨o, missed, h, rfl, steps, partly, wholly .epoch .epoch⟩

end DesiredState
