import DesiredState.Proofs.Host.Provider
import DesiredState.Proofs.Host.Titles
import DesiredState.Proofs.Reconcile.Idempotence
import DesiredState.Proofs.Reconcile.Recovery

/-!
# The turns of a run

On a provider without faults, whose hosts are consistent, no turn of a run fails.  What a turn does is
said by a relation of the provider before and after it; a run is a sequence of such turns.

Contents:

* `workOn_eq`, `workOn_cases` — a turn and the run of its engine.
* `Resource.target?` — the hosted resource that a resource finds.
* `Brought`, `syncOne_brought` — a turn that brings a resource about.
* `Brings`, `syncAll_brings` — a whole run of such turns.
* `Brought.atRest`, `syncAll_atRest` — a run over resources that are at rest.
-/

namespace DesiredState

variable {k : Kind} {α : Type}

/-! ## Turns -/

/-- Faults do not come back while one host goes on by itself. -/
theorem Provider.quiet_withSimulator (p : Provider) {w : Simulator k} (quiet : p.Quiet)
    (spent : Spent (p.simulator k) w) : (p.withSimulator w).Quiet := by
  intro k' op
  by_cases same : k' = k
  · subst same
    rw [host_withSimulator]
    exact spent.quiet (quiet k' op)
  · rw [host_withSimulator_of_ne p w same]
    exact quiet k' op

theorem Provider.moved {p : Provider} {hosted : Dict (HostedOf k)} {serial : Numbering}
    {w : Simulator k} (quiet : p.Quiet) (made : Made (p.simulator k) hosted serial w) :
    p.Moved k hosted serial (p.withSimulator w) where
  quiet := p.quiet_withSimulator quiet made.spent
  hosted := (p.hosted_withSimulator w).trans made.hosted
  others _ other := p.hosted_withSimulator_of_ne w other
  serial := made.serial

/-- A turn is the end of a run of its engine. -/
theorem workOn_eq {r : Resource} {p : Provider} {run : Run r.kind (Simulator r.kind) α}
    {report : Spec r.kind → α → ReportEntry} {a : α} {s : Spec r.kind} {w : Simulator r.kind}
    {token token' : Token}
    (ran : run.run ⟨r.spec, p.simulator r.kind, token⟩ = (.ok a, ⟨s, w, token'⟩)) :
    workOn r ⟨p, token⟩ run report = ⟨⟨r.kind, s⟩, report s a, none, ⟨p.withSimulator w, token'⟩⟩ := by
  simp only [workOn, ran]

theorem workOn_of_error {r : Resource} {p : Provider} {run : Run r.kind (Simulator r.kind) α}
    {report : Spec r.kind → α → ReportEntry} {f : Failure} {s : Spec r.kind}
    {w : Simulator r.kind} {token token' : Token}
    (ran : run.run ⟨r.spec, p.simulator r.kind, token⟩ = (.error f, ⟨s, w, token'⟩)) :
    workOn r ⟨p, token⟩ run report = ⟨⟨r.kind, s⟩, .failed ⟨r.kind, s⟩ f.message, some f,
      ⟨p.withSimulator w, token'⟩⟩ := by
  simp only [workOn, ran]

/-- A turn is the end of a run of its engine, or it is reported as failed. -/
theorem workOn_cases (r : Resource) (w : World) (run : Run r.kind (Simulator r.kind) α)
    (report : Spec r.kind → α → ReportEntry) :
    (∃ a y, run.run ⟨r.spec, w.provider.simulator r.kind, w.token⟩ = (.ok a, y) ∧
      workOn r w run report =
        ⟨⟨r.kind, y.spec⟩, report y.spec a, none, w.provider.withSimulator y.world, y.token⟩) ∨
      (workOn r w run report).entry.status = .failed := by
  rcases ran : run.run ⟨r.spec, w.provider.simulator r.kind, w.token⟩ with ⟨f | a, y⟩
  · refine .inr ?_
    simp only [workOn, ran]
    rfl
  · exact .inl ⟨a, y, rfl, by simp only [workOn, ran]⟩

/-! ## Bringing about -/

/-- The hosted resource that a sync of a resource ends with. -/
def Resource.goal (r : Resource) (now : Instant) (p : Provider) : HostedOf r.kind :=
  r.spec.settled (r.spec.origin now (p.simulator r.kind))

/-- A resource was brought about: it is hosted as it is asked for, and known as it is hosted. -/
structure Brought (now : Instant) (p : Provider) (r : Resource) (e : ReportEntry) (r' : Resource)
    (p' : Provider) : Prop where
  resource : r' = ⟨r.kind, r.spec.synced now (r.goal now p)⟩
  entry : ∃ o : SyncOutcome r.kind, e = .synced (r.spec.synced now (r.goal now p)) o
  moved : p.Moved r.kind ((p.hosted r.kind).insert (r.goal now p).identifier (r.goal now p))
    (r.spec.nextSerial (p.simulator r.kind)) p'

namespace Resource

/-- The kind and the key of the hosted resource that the presence checks of a sync find. -/
def target? (r : Resource) (p : Provider) : Option (Kind × String) :=
  (r.spec.prepare.1.sought? (p.hosted r.kind)).map fun key => (r.kind, key)

theorem sought?_of_target? {r : Resource} {p : Provider} {key : String}
    (target : r.target? p = some (k, key)) :
    k = r.kind ∧ r.spec.prepare.1.sought? (p.hosted r.kind) = some key := by
  obtain ⟨key', sought, same⟩ := Option.map_eq_some_iff.mp target
  obtain ⟨rfl, rfl⟩ := Prod.mk.inj same
  exact ⟨rfl, sought⟩

end Resource

/-- The identifier is unknown, or something is hosted under it. -/
def Resource.Held (r : Resource) (p : Provider) : Prop :=
  r.identifier = "" ∨ (p.hosted r.kind).contains r.identifier = true

variable {settings : RunSettings} {now : Instant} {p p' p'' : Provider} {r r' : Resource}
  {e : ReportEntry}

theorem syncOne_brought (settings : RunSettings) (now : Instant) (prepared : r.spec.Prepared)
    (consistent : Consistent (p.hosted r.kind)) (held : r.Held p) (quiet : p.Quiet) :
    ∃ e r' p', syncOne settings now r ⟨p, .live⟩ = ⟨r', e, none, ⟨p', .live⟩⟩ ∧
      Brought now p r e r' p' := by
  have accepted : r.spec.prepare.2 = .ok () := by rw [prepared.prepare_eq]
  have placed : r.spec.prepare.1.Placed (p.simulator r.kind).hosted := by
    rw [prepared.prepare_eq]
    exact held.imp id .inl
  have ensures : ((settings.engine now r.kind).sync now).Ensures r.spec (p.simulator r.kind) _ :=
    Run.Ensures.sync_quiet accepted consistent placed (quiet r.kind)
  obtain ⟨answer, s, w, ran, o, rfl, finished⟩ := ensures
  rw [prepared.prepare_eq] at finished
  obtain ⟨-, -, rfl, made⟩ := finished
  exact ⟨_, _, _, workOn_eq ran, rfl, ⟨o, rfl⟩, Provider.moved quiet made⟩

/-- A turn that brings a resource about takes nothing away from the provider. -/
theorem Brought.consistent (brought : Brought now p r e r' p')
    (consistent : ∀ k, Consistent (p.hosted k)) (k : Kind) : Consistent (p'.hosted k) := by
  by_cases same : k = r.kind
  · subst same
    rw [brought.moved.hosted]
    exact (consistent r.kind).insert
      (r.spec.identifier_origin_ne_empty (w := p.simulator r.kind) (consistent r.kind) now)
  · rw [brought.moved.others k same]
    exact consistent k

theorem Brought.held (brought : Brought now p r e r' p') {q : Resource} (held : q.Held p) :
    q.Held p' := by
  refine held.imp id fun there => ?_
  obtain ⟨k, s⟩ := q
  obtain ⟨h, found⟩ := Dict.contains_iff.mp there
  refine Dict.contains_iff.mpr ?_
  by_cases same : k = r.kind ∧ s.identifier = (r.goal now p).identifier
  · obtain ⟨rfl, key⟩ := same
    exact ⟨_, key ▸ brought.moved.get?_self⟩
  · exact ⟨h, (brought.moved.get?_of_apart fun kind key => same ⟨kind, key⟩).trans found⟩

/-- Resources were brought about one after the other. -/
inductive Brings (now : Instant) :
    Provider → List Resource → List ReportEntry → List Resource → Provider → Prop
  | nil (p : Provider) : Brings now p [] [] [] p
  | cons {p p' p'' : Provider} {r r' : Resource} {rs rs' : List Resource} {e : ReportEntry}
      {es : List ReportEntry} (first : Brought now p r e r' p') (rest : Brings now p' rs es rs' p'') :
      Brings now p (r :: rs) (e :: es) (r' :: rs') p''

theorem runAll_of_unhalted {work : Resource → World → Turn} {cont : Bool} {rs : List Resource}
    {w : World} (unhalted : (work r w).halts cont = false) :
    runAll work cont (r :: rs) w = .after (work r w) (runAll work cont rs (work r w).world) := by
  simp only [runAll, unhalted, Bool.false_eq_true, if_false]

theorem Report.isSuccess_iff {report : Report} :
    report.isSuccess = true ↔
      report.cancelled = false ∧ ∀ e ∈ report.entries, e.status ≠ .failed := by
  simp [Report.isSuccess, Report.failed, Report.count]

theorem entry_mem_runAll (work : Resource → World → Turn) (cont : Bool) (r : Resource)
    (rs : List Resource) (w : World) :
    (work r w).entry ∈ (runAll work cont (r :: rs) w).report.entries := by
  simp only [runAll]
  split <;> exact List.mem_cons_self

/-- A turn without a failure does not halt a run. -/
theorem runAll_cons {work : Resource → World → Turn} {cont : Bool} {rs : List Resource}
    {w w' : World} (turned : work r w = ⟨r', e, none, w'⟩) :
    runAll work cont (r :: rs) w = .after ⟨r', e, none, w'⟩ (runAll work cont rs w') := by
  rw [runAll_of_unhalted (by simp [turned, Turn.halts]), turned]

theorem syncAll_brings (settings : RunSettings) (now : Instant) {rs : List Resource}
    (prepared : ∀ r ∈ rs, r.spec.Prepared)
    (consistent : ∀ k, Consistent (p.hosted k)) (held : ∀ r ∈ rs, r.Held p) (quiet : p.Quiet) :
    ∃ es rs' p', syncAll settings now rs ⟨p, .live⟩ = ⟨rs', ⟨es, false⟩, ⟨p', .live⟩⟩ ∧
      Brings now p rs es rs' p' := by
  induction rs generalizing p with
  | nil => exact ⟨[], [], p, rfl, .nil p⟩
  | cons r rs inductionHypothesis =>
    obtain ⟨e, r', p', turned, brought⟩ := syncOne_brought settings now
      (prepared r List.mem_cons_self) (consistent r.kind) (held r List.mem_cons_self) quiet
    obtain ⟨es, rs', p'', ran, brings⟩ := inductionHypothesis
      (fun q member => prepared q (List.mem_cons_of_mem r member)) (brought.consistent consistent)
      (fun q member => brought.held (held q (List.mem_cons_of_mem r member))) brought.moved.quiet
    refine ⟨e :: es, r' :: rs', p'', ?_, .cons brought brings⟩
    unfold syncAll at ran ⊢
    rw [runAll_cons turned, ran]
    rfl

/-- What was brought about has an identifier. -/
theorem Brings.identifier_ne_empty {rs qs : List Resource} {es : List ReportEntry}
    (brings : Brings now p rs es qs p') (consistent : ∀ k, Consistent (p.hosted k)) :
    ∀ q ∈ qs, q.identifier ≠ "" := by
  induction brings with
  | nil p => exact fun q member => absurd member List.not_mem_nil
  | @cons p _ _ r _ _ _ _ _ first _ inductionHypothesis =>
    intro q member
    rcases List.mem_cons.mp member with rfl | member
    · rw [first.resource]
      exact r.spec.identifier_origin_ne_empty (w := p.simulator r.kind) (consistent r.kind) now
    · exact inductionHypothesis (first.consistent consistent) q member

/-- What was brought about is what was asked for, with what is known of it. -/
theorem Brings.resources {rs qs : List Resource} {es : List ReportEntry}
    (brings : Brings now p rs es qs p') :
    List.Forall₂ (fun r q => ∃ h, q = ⟨r.kind, r.spec.synced now h⟩) rs qs := by
  induction brings with
  | nil p => exact .nil
  | cons first _ inductionHypothesis => exact .cons ⟨_, first.resource⟩ inductionHypothesis

/-- A run that brought all resources about succeeded. -/
theorem Brings.isSuccess {rs qs : List Resource} {es : List ReportEntry}
    (brings : Brings now p rs es qs p') : (⟨es, false⟩ : Report).isSuccess = true := by
  refine Report.isSuccess_iff.mpr ⟨rfl, ?_⟩
  induction brings with
  | nil p => exact fun e member => absurd member List.not_mem_nil
  | cons first _ inductionHypothesis =>
    obtain ⟨-, ⟨o, rfl⟩, -⟩ := first
    refine List.forall_mem_cons.mpr ⟨?_, inductionHypothesis⟩
    show Status.ofSync o.action ≠ .failed
    cases o.action <;> nofun

/-- The report tells the identifiers of what was brought about. -/
theorem Brings.map_identifier {rs qs : List Resource} {es : List ReportEntry}
    (brings : Brings now p rs es qs p') :
    es.map ReportEntry.identifier = qs.map Resource.identifier := by
  induction brings with
  | nil p => rfl
  | cons first _ inductionHypothesis =>
    obtain ⟨rfl, ⟨o, rfl⟩, -⟩ := first
    rw [List.map_cons, List.map_cons, inductionHypothesis]
    rfl

/-! ## Resources at rest -/

namespace Resource

/-- Nothing about the resource is left to be done. -/
def AtRest (r : Resource) (p : Provider) : Prop :=
  ∃ h, DesiredState.AtRest r.spec (p.host r.kind) h

theorem AtRest.congr (rest : r.AtRest p) (same : p'.hosted r.kind = p.hosted r.kind) :
    r.AtRest p' := by
  obtain ⟨h, prepared, known, there, diff, plan, seen⟩ := rest
  have hosted : (p'.host r.kind).hosted = (p.host r.kind).hosted := same
  refine ⟨h, prepared, known, ?_, diff, plan, seen⟩
  rw [Host.current?, hosted]
  exact there

/-- The resource after another sync. -/
def syncedAgain (r : Resource) (now : Instant) : Resource := ⟨r.kind, r.spec.syncedAgain now⟩

/-- What is reported of a resource at rest. -/
def unchanged (r : Resource) (now : Instant) : ReportEntry :=
  .synced (r.spec.syncedAgain now) ⟨.unchanged, [], .empty, []⟩

end Resource

/-- A resource that was brought about is at rest. -/
theorem Brought.atRest (brought : Brought now p r e r' p') (prepared : r.spec.Prepared)
    (consistent : Consistent (p.hosted r.kind)) : r'.AtRest p' := by
  have known := r.spec.identifier_origin_ne_empty (w := p.simulator r.kind) consistent now
  obtain ⟨rfl, -, moved⟩ := brought
  refine ⟨r.goal now p, prepared.of_intent rfl, known, ?_, r.spec.diff_settled _, ?_, rfl⟩
  · exact Host.current?_of_get? moved.get?_self
  · exact Spec.tagPlan_settledTags (r.spec.synced now (r.goal now p)) _

theorem syncOne_atRest (settings : RunSettings) (now : Instant) (rest : r.AtRest p)
    (quiet : p.Quiet) :
    ∃ p', syncOne settings now r ⟨p, .live⟩ =
        ⟨r.syncedAgain now, r.unchanged now, none, ⟨p', .live⟩⟩ ∧
      p.Moved r.kind (p.hosted r.kind) p.serial p' := by
  obtain ⟨h, rest⟩ := rest
  have ran : ((settings.engine now r.kind).sync now).run ⟨r.spec, p.simulator r.kind, .live⟩ = _ :=
    run_sync_of_atRest (w := p.simulator r.kind) rest (quiet r.kind)
  exact ⟨_, workOn_eq ran, Provider.moved quiet ⟨.of_eq rfl, rfl, rfl⟩⟩

/-- A run over resources at rest changes nothing but the times of their last syncs. -/
theorem syncAll_atRest (settings : RunSettings) (now : Instant) {rs : List Resource}
    (rest : ∀ r ∈ rs, r.AtRest p) (quiet : p.Quiet) :
    ∃ p', syncAll settings now rs ⟨p, .live⟩ =
        ⟨rs.map (·.syncedAgain now), ⟨rs.map (·.unchanged now), false⟩, ⟨p', .live⟩⟩ ∧
      ∀ k, p'.hosted k = p.hosted k := by
  induction rs generalizing p with
  | nil => exact ⟨p, rfl, fun _ => rfl⟩
  | cons r rs inductionHypothesis =>
    obtain ⟨p', turned, moved⟩ := syncOne_atRest settings now (rest r List.mem_cons_self) quiet
    have still := moved.hosted_of_still
    obtain ⟨p'', ran, same⟩ := inductionHypothesis
      (fun q member => (rest q (List.mem_cons_of_mem r member)).congr (still q.kind)) moved.quiet
    refine ⟨p'', ?_, fun k => (same k).trans (still k)⟩
    unfold syncAll at ran ⊢
    rw [runAll_cons turned, ran]
    rfl

end DesiredState
