import DesiredState.CommandLine.Program
import DesiredState.Proofs.Fleet.Turns
import DesiredState.Proofs.Reconcile.Keeps
import DesiredState.Record.Run

/-!
# The account that a run gives

Whatever is hosted, whatever faults are pending and whenever the run is cancelled: its report tells of
every resource once, and what it tells is what happened.  From the failure that halts the run on, the
resources are reported as not run and nothing more is done.  Report, history and exit code agree on
whether the run succeeded.

Contents:

* `ReportEntry.Names`, `Turn.Faithful` — an entry and its resource, a turn and its report.
* `syncOne_faithful`, `deleteOne_faithful` — the turns of both runs are faithful.
* `Turn.Halting`, `HaltsAt` — the failure that halts a run.
* `Accounted`, `runAll_accounted` — what a run reports, and what it leaves behind.
* `runs_accounted` — the main result.
-/

namespace DesiredState

variable {k : Kind} {α : Type} {work : Resource → World → Turn} {cont : Bool} {rs : List Resource}
  {r : Resource} {w : World} {n : Nat}

/-! ## Faithful turns -/

/-- An entry is about a resource. -/
structure ReportEntry.Names (e : ReportEntry) (r : Resource) : Prop where
  kind : e.kind = r.kind
  name : e.name = r.name
  identifier : e.identifier = r.identifier

/-- Something was done, and it went well. -/
structure ReportEntry.Fine (e : ReportEntry) : Prop where
  failed : e.status ≠ .failed
  notRun : e.status ≠ .notRun
  error : e.error = none

/-- A turn on a resource reports the resource as it is afterwards, and its failure if it failed. -/
structure Turn.Faithful (r : Resource) (t : Turn) : Prop where
  kind : t.resource.kind = r.kind
  names : t.entry.Names t.resource
  fine : t.failure = none → t.entry.Fine
  failed : ∀ f, t.failure = some f → t.entry = .failed t.resource f.message

/-- A turn is faithful if its report is, whenever there is something to report. -/
theorem workOn_faithful (r : Resource) (w : World) (run : Run r.kind (Simulator r.kind) α)
    {report : Spec r.kind → α → ReportEntry}
    (names : ∀ s a, (report s a).Names ⟨r.kind, s⟩) (fine : ∀ s a, (report s a).Fine) :
    (workOn r w run report).Faithful r := by
  unfold workOn
  rcases run.run ⟨r.spec, w.provider.simulator r.kind, w.token⟩ with ⟨f | a, y⟩
  · refine ⟨rfl, ⟨rfl, rfl, rfl⟩, nofun, ?_⟩
    rintro _ ⟨⟩
    rfl
  · exact ⟨rfl, names y.spec a, fun _ => fine y.spec a, nofun⟩

theorem syncOne_faithful (settings : RunSettings) (now : Instant) (r : Resource) (w : World) :
    (syncOne settings now r w).Faithful r := by
  refine workOn_faithful r w _ (fun s o => ⟨rfl, rfl, rfl⟩) fun s o => ⟨?_, ?_, rfl⟩
  all_goals
    show Status.ofSync o.action ≠ _
    cases o.action <;> nofun

theorem deleteOne_faithful (settings : RunSettings) (now : Instant) (r : Resource) (w : World) :
    (deleteOne settings now r w).Faithful r := by
  refine workOn_faithful r w _ (fun s action => ⟨rfl, rfl, rfl⟩) fun s action => ⟨?_, ?_, rfl⟩
  all_goals
    show Status.ofDelete action ≠ _
    cases action <;> nofun

theorem resource_workOn (r : Resource) (w : World) (run : Run r.kind (Simulator r.kind) α)
    (report : Spec r.kind → α → ReportEntry) :
    (workOn r w run report).resource =
      ⟨r.kind, (run.run ⟨r.spec, w.provider.simulator r.kind, w.token⟩).2.spec⟩ := by
  unfold workOn
  rcases run.run ⟨r.spec, w.provider.simulator r.kind, w.token⟩ with ⟨f | a, y⟩ <;> rfl

/-- A deletion leaves the resource as it is, whether it succeeds or not. -/
theorem resource_deleteOne (settings : RunSettings) (now : Instant) (r : Resource) (w : World) :
    (deleteOne settings now r w).resource = r := by
  have kept := ((settings.engine now r.kind).delete_keeps r.spec
    ⟨r.spec, w.provider.simulator r.kind, w.token⟩ rfl).ends.1
  rw [deleteOne, resource_workOn, kept]

/-! ## Halting -/

/-- A failed turn halts a run that does not go on after failures; a cancellation always does. -/
def Turn.Halting (cont : Bool) (t : Turn) : Prop :=
  ∃ f, t.failure = some f ∧ (cont = false ∨ f.isCancelled = true)

theorem Turn.halts_iff {t : Turn} : t.halts cont = true ↔ t.Halting cont := by
  unfold halts isCancelled Halting
  cases t.failure <;> cases cont <;> simp

/-- The first turn that halts the run is the one of this position. -/
inductive HaltsAt (work : Resource → World → Turn) (cont : Bool) :
    List Resource → World → Nat → Prop
  | here {r : Resource} {rs : List Resource} {w : World} (halts : (work r w).Halting cont) :
      HaltsAt work cont (r :: rs) w 0
  | later {r : Resource} {rs : List Resource} {w : World} {n : Nat}
      (goesOn : ¬(work r w).Halting cont) (later : HaltsAt work cont rs (work r w).world n) :
      HaltsAt work cont (r :: rs) w (n + 1)

theorem runAll_of_halting (halts : (work r w).Halting cont) :
    runAll work cont (r :: rs) w =
      .after (work r w) (.untouched rs (work r w).isCancelled (work r w).world) := by
  simp only [runAll, Turn.halts_iff.mpr halts, if_true]

theorem runAll_of_not_halting (goesOn : ¬(work r w).Halting cont) :
    runAll work cont (r :: rs) w = .after (work r w) (runAll work cont rs (work r w).world) :=
  runAll_of_unhalted (by simpa [← Turn.halts_iff] using goesOn)

/-- A run halts at its first turn, or goes on from there. -/
theorem runAll_cases (work : Resource → World → Turn) (cont : Bool) (r : Resource)
    (rs : List Resource) (w : World) :
    (work r w).Halting cont ∧ runAll work cont (r :: rs) w =
        .after (work r w) (.untouched rs (work r w).isCancelled (work r w).world) ∨
      ¬(work r w).Halting cont ∧ runAll work cont (r :: rs) w =
        .after (work r w) (runAll work cont rs (work r w).world) := by
  by_cases halts : (work r w).Halting cont
  · exact .inl ⟨halts, runAll_of_halting halts⟩
  · exact .inr ⟨halts, runAll_of_not_halting halts⟩

/-! ## The lists of a run -/

/-- How the resources after a run correspond to those before it. -/
theorem runAll_resources {Q : Resource → Resource → Prop}
    (turned : ∀ r ∈ rs, ∀ w, Q r (work r w).resource) (left : ∀ r ∈ rs, Q r r) :
    List.Forall₂ Q rs (runAll work cont rs w).resources := by
  -- Each turn begins in the world that the one before it left.
  induction rs generalizing w with
  | nil => exact .nil
  | cons r rs inductionHypothesis =>
    obtain ⟨here, turned⟩ := List.forall_mem_cons.mp turned
    obtain ⟨-, left⟩ := List.forall_mem_cons.mp left
    by_cases halts : (work r w).Halting cont
    · rw [runAll_of_halting halts]
      exact .cons (here w) (List.forall₂_same.mpr left)
    · rw [runAll_of_not_halting halts]
      exact .cons (here w) (inductionHypothesis turned left)

/-- How the report of a run corresponds to the resources after it. -/
theorem runAll_entries {P : ReportEntry → Resource → Prop}
    (turned : ∀ r ∈ rs, ∀ w, P (work r w).entry (work r w).resource)
    (left : ∀ r ∈ rs, P (.ofStatus r .notRun) r) :
    List.Forall₂ P (runAll work cont rs w).report.entries (runAll work cont rs w).resources := by
  induction rs generalizing w with
  | nil => exact .nil
  | cons r rs inductionHypothesis =>
    obtain ⟨here, turned⟩ := List.forall_mem_cons.mp turned
    obtain ⟨-, left⟩ := List.forall_mem_cons.mp left
    by_cases halts : (work r w).Halting cont
    · rw [runAll_of_halting halts]
      refine .cons (here w) ?_
      exact List.forall₂_map_left_iff.mpr (List.forall₂_same.mpr left)
    · rw [runAll_of_not_halting halts]
      exact .cons (here w) (inductionHypothesis turned left)

theorem map_eq_of_forall₂ {β γ δ : Type} {f : β → δ} {g : γ → δ} {bs : List β} {cs : List γ}
    (related : List.Forall₂ (fun b c => f b = g c) bs cs) : bs.map f = cs.map g := by
  rw [← List.forall₂_eq_eq_eq, List.forall₂_map_left_iff, List.forall₂_map_right_iff]
  exact related

/-! ## Faithful runs -/

/-- The turn of a position halted a run: it failed, all turns before it were made, and what comes
after is as it was. -/
structure HaltedAt (work : Resource → World → Turn) (cont : Bool) (rs : List Resource) (w : World)
    (result : RunResult) (n : Nat) : Prop where
  failed : ∃ e, ∃ f : Failure, result.report.entries[n]? = some e ∧ e.status = .failed ∧
    e.error = some f.message ∧ (cont = false ∨ f.isCancelled = true)
  first : cont = false → ∀ e ∈ result.report.entries.take n, e.status ≠ .failed
  ran : ∀ e ∈ result.report.entries.take (n + 1), e.status ≠ .notRun
  notRun : ∀ e ∈ result.report.entries.drop (n + 1), e.status = .notRun
  untouched : result.resources.drop (n + 1) = rs.drop (n + 1)
  world : result.world = (runAll work cont (rs.take (n + 1)) w).world

section Faithful

variable (faithful : ∀ r w, (work r w).Faithful r)
include faithful

/-- A turn failed, or it went well. -/
theorem failed_or_fine (r : Resource) (w : World) :
    (∃ f, (work r w).failure = some f ∧ (work r w).entry.status = .failed ∧
      (work r w).entry.error = some f.message) ∨
      (work r w).failure = none ∧ (work r w).entry.Fine := by
  cases failure : (work r w).failure with
  | none => exact .inr ⟨rfl, (faithful r w).fine failure⟩
  | some f =>
    refine .inl ⟨f, rfl, ?_⟩
    rw [(faithful r w).failed f failure]
    exact ⟨rfl, rfl⟩

theorem status_ne_notRun (r : Resource) (w : World) : (work r w).entry.status ≠ .notRun := by
  rcases failed_or_fine faithful r w with ⟨f, -, failed, -⟩ | ⟨-, fine⟩
  · rw [failed]
    nofun
  · exact fine.notRun

/-- Every entry tells of its resource, and has an error if it failed. -/
theorem told_runAll :
    (∀ e ∈ (runAll work cont rs w).report.entries, e.error.isSome = true ↔ e.status = .failed) ∧
      List.Forall₂ ReportEntry.Names (runAll work cont rs w).report.entries
        (runAll work cont rs w).resources := by
  rw [← List.forall₂_and_left]
  refine runAll_entries (fun r _ w => ⟨?_, (faithful r w).names⟩) fun r _ => ?_
  · rcases failed_or_fine faithful r w with ⟨f, -, failed, error⟩ | ⟨-, fine⟩
    · simp [failed, error]
    · simp [fine.failed, fine.error]
  · exact ⟨⟨nofun, nofun⟩, rfl, rfl, rfl⟩

theorem kinds_runAll : (runAll work cont rs w).report.entries.map ReportEntry.kind =
    rs.map Resource.kind := by
  have entries : (runAll work cont rs w).report.entries.map ReportEntry.kind =
      (runAll work cont rs w).resources.map Resource.kind :=
    map_eq_of_forall₂ ((told_runAll faithful).2.imp fun _ _ names => names.kind)
  have resources : rs.map Resource.kind = (runAll work cont rs w).resources.map Resource.kind :=
    map_eq_of_forall₂ (runAll_resources (fun r _ w => (faithful r w).kind.symm) fun _ _ => rfl)
  rw [entries, resources]

theorem failed_of_cancelled (cancelled : (runAll work cont rs w).report.cancelled = true) :
    ∃ e ∈ (runAll work cont rs w).report.entries, e.status = .failed := by
  induction rs generalizing w with
  | nil => cases cancelled
  | cons r rs inductionHypothesis =>
    by_cases halts : (work r w).Halting cont
    -- Only the turn that halts the run can have cancelled it.
    · rw [runAll_of_halting halts]
      obtain ⟨f, failure, -⟩ := halts
      refine ⟨_, List.mem_cons_self, ?_⟩
      rw [(faithful r w).failed f failure]
      rfl
    · rw [runAll_of_not_halting halts] at cancelled ⊢
      obtain ⟨e, member, failed⟩ := inductionHypothesis cancelled
      exact ⟨e, List.mem_cons_of_mem _ member, failed⟩

/-- A run that nothing halts works on every resource. -/
theorem ran_of_unhalted (unhalted : ∀ n, ¬HaltsAt work cont rs w n) :
    ∀ e ∈ (runAll work cont rs w).report.entries, e.status ≠ .notRun := by
  induction rs generalizing w with
  | nil => exact fun e member => absurd member List.not_mem_nil
  | cons r rs inductionHypothesis =>
    have goesOn : ¬(work r w).Halting cont := fun halts => unhalted 0 (.here halts)
    rw [runAll_of_not_halting goesOn]
    refine List.forall_mem_cons.mpr ⟨status_ne_notRun faithful r w, ?_⟩
    exact inductionHypothesis fun n later => unhalted (n + 1) (.later goesOn later)

theorem haltedAt (halted : HaltsAt work cont rs w n) :
    HaltedAt work cont rs w (runAll work cont rs w) n := by
  induction halted with
  | @here r rs w halts =>
    have ⟨f, failure, reason⟩ := halts
    have entry := (faithful r w).failed f failure
    rw [runAll_of_halting halts]
    -- The list cut after this resource is this resource alone, and its turn halts that run too.
    exact {
      failed := ⟨(work r w).entry, f, rfl, by rw [entry]; rfl, by rw [entry]; rfl, reason⟩
      first := fun _ e member => absurd member List.not_mem_nil
      ran := List.forall_mem_singleton.mpr (status_ne_notRun faithful r w)
      notRun := by
        intro e member
        obtain ⟨q, -, rfl⟩ := List.mem_map.mp member
        rfl
      untouched := rfl
      world := by
        rw [List.take_succ_cons, runAll_of_halting halts]
        rfl }
  | @later r rs w n goesOn _ inductionHypothesis =>
    obtain ⟨failed, first, ran, notRun, untouched, world⟩ := inductionHypothesis
    rw [runAll_of_not_halting goesOn]
    refine ⟨failed, fun stops => ?_, ?_, notRun, untouched, ?_⟩
    · refine List.forall_mem_cons.mpr ⟨?_, first stops⟩
      -- A failure here would have halted the run.
      rcases failed_or_fine faithful r w with ⟨f, failure, -⟩ | ⟨-, fine⟩
      · exact absurd ⟨f, failure, .inl stops⟩ goesOn
      · exact fine.failed
    · exact List.forall_mem_cons.mpr ⟨status_ne_notRun faithful r w, ran⟩
    · rw [List.take_succ_cons, runAll_of_not_halting goesOn]
      exact world

/-- A resource is left out only after another one failed. -/
theorem failed_of_notRun {e : ReportEntry} (member : e ∈ (runAll work cont rs w).report.entries)
    (left : e.status = .notRun) :
    ∃ e ∈ (runAll work cont rs w).report.entries, e.status = .failed := by
  by_cases unhalted : ∀ n, ¬HaltsAt work cont rs w n
  · exact absurd left (ran_of_unhalted faithful unhalted e member)
  · simp only [not_forall, not_not] at unhalted
    obtain ⟨n, halted⟩ := unhalted
    obtain ⟨e, f, there, failed, -⟩ := (haltedAt faithful halted).failed
    exact ⟨e, List.mem_of_getElem? there, failed⟩

/-- A cancelled run is no exception: the resource at which it was cancelled is reported as failed. -/
theorem isSuccess_iff_unfailed : (runAll work cont rs w).report.isSuccess = true ↔
    ∀ e ∈ (runAll work cont rs w).report.entries, e.status ≠ .failed := by
  rw [Report.isSuccess_iff]
  refine ⟨And.right, fun unfailed => ⟨?_, unfailed⟩⟩
  refine Bool.eq_false_iff.mpr fun cancelled => ?_
  obtain ⟨e, member, failed⟩ := failed_of_cancelled faithful cancelled
  exact unfailed e member failed

theorem isSuccess_runAll : (runAll work cont rs w).report.isSuccess = true ↔
    ∀ e ∈ (runAll work cont rs w).report.entries, e.status ≠ .failed ∧ e.status ≠ .notRun := by
  rw [isSuccess_iff_unfailed faithful]
  refine ⟨fun unfailed e member => ⟨unfailed e member, fun left => ?_⟩, ?_⟩
  · obtain ⟨e', member', failed⟩ := failed_of_notRun faithful member left
    exact unfailed e' member' failed
  · exact fun fine e member => (fine e member).1

/-- There is no first error exactly if the run succeeded. -/
theorem firstError?_runAll : (runAll work cont rs w).report.firstError?.isNone =
    (runAll work cont rs w).report.isSuccess := by
  rw [Bool.eq_iff_iff, isSuccess_iff_unfailed faithful, Option.isNone_iff_eq_none,
    Report.firstError?, List.findSome?_eq_none_iff]
  refine forall₂_congr fun e member => ?_
  rw [ne_eq, ← (told_runAll faithful).1 e member, Option.not_isSome_iff_eq_none]

end Faithful

/-! ## What a run writes down -/

theorem RecordedState.getLast?_ended (s : RecordedState) (now : Instant) (operation : RunOperation)
    (result : RunResult) : (s.ended now operation result).history.getLast? =
      some (.ofRun now operation result.report.labels result.report.firstError?) := by
  simp only [ended, addHistory, List.getLast?_drop, List.length_append, List.length_singleton,
    List.getLast?_append, List.getLast?_singleton, maxHistory]
  rw [if_neg (by omega), Option.some_or]

/-- What a run reports of its resources, what it leaves behind, and whether it succeeded. -/
structure Accounted (work : Resource → World → Turn) (cont : Bool) (rs : List Resource) (w : World)
    (result : RunResult) : Prop where
  kinds : result.report.entries.map ReportEntry.kind = rs.map Resource.kind
  names : List.Forall₂ ReportEntry.Names result.report.entries result.resources
  errors : ∀ e ∈ result.report.entries, e.error.isSome = true ↔ e.status = .failed
  unhalted : (∀ n, ¬HaltsAt work cont rs w n) → ∀ e ∈ result.report.entries, e.status ≠ .notRun
  halted : ∀ n, HaltsAt work cont rs w n → HaltedAt work cont rs w result n
  cancelled : result.report.cancelled = true → ∃ e ∈ result.report.entries, e.status = .failed
  success : result.report.isSuccess = true ↔
    ∀ e ∈ result.report.entries, e.status ≠ .failed ∧ e.status ≠ .notRun
  history : ∀ (s : RecordedState) (now : Instant) (operation : RunOperation),
    ∃ h, (s.ended now operation result).history.getLast? = some h ∧
      h.success = result.report.isSuccess
  exitCode : CommandLine.exitCode result.report = 0 ↔ result.report.isSuccess = true

theorem runAll_accounted (faithful : ∀ r w, (work r w).Faithful r) (cont : Bool)
    (rs : List Resource) (w : World) : Accounted work cont rs w (runAll work cont rs w) where
  kinds := kinds_runAll faithful
  names := (told_runAll faithful).2
  errors := (told_runAll faithful).1
  unhalted := ran_of_unhalted faithful
  halted _ := haltedAt faithful
  cancelled := failed_of_cancelled faithful
  success := isSuccess_runAll faithful
  history s now operation :=
    ⟨_, s.getLast?_ended now operation _, firstError?_runAll faithful⟩
  exitCode := by
    unfold CommandLine.exitCode
    split
    next success => simp [success]
    next failed => simp [failed]

/-- Both runs give a true account of themselves, and a deletion leaves every resource as it is. -/
theorem runs_accounted (settings : RunSettings) (now : Instant) (rs : List Resource) (w : World) :
    Accounted (syncOne settings now) settings.continueOnError rs w (syncAll settings now rs w) ∧
      Accounted (deleteOne settings now) settings.continueOnError rs.reverse w
        (deleteAll settings now rs w) ∧
      (deleteAll settings now rs w).resources = rs.reverse := by
  refine ⟨runAll_accounted (syncOne_faithful settings now) _ _ _,
    runAll_accounted (deleteOne_faithful settings now) _ _ _, ?_⟩
  have left : List.Forall₂ (· = ·) rs.reverse (deleteAll settings now rs w).resources :=
    runAll_resources (fun r _ w => (resource_deleteOne settings now r w).symm) fun _ _ => rfl
  rw [List.forall₂_eq_eq_eq] at left
  exact left.symm

end DesiredState
