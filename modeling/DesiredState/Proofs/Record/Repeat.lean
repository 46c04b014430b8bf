import Mathlib.Data.List.Forall2
import DesiredState.Proofs.Record.Runs

/-!
# A repeated run

A run that syncs a manifest once more, from what the first run recorded and what documents keep of it,
takes over exactly the resources that the first run brought about.  They are at rest, so nothing is
done, and what is hosted stays as it is.

Contents:

* `Brings.atRest` — what a run brought about is at rest at its end.
* `mem_foldl_recordedFrom` — what a run brought about is recorded.
* `Manifest.adoptOne_of_synced`, `Coherent.adopt_sync` — what the repeated run begins with.
* `ReportEntry.Idle`, `Coherent.sync_again` — what it does.
-/

namespace DesiredState

open RecordedState (put)

variable {astray : Kind × String → Prop} {used : Nat → Prop} {names : Kind × String → Prop}
  {s : RecordedState} {m : Manifest}

/-! ## At rest after the run -/

section

variable {rs qs qs' : List Resource} {now : Instant} {p p' p'' : Provider} {r r' : Resource}
  {e : ReportEntry} {es : List ReportEntry}

/-- A resource is at rest as long as what is hosted under its identifier stays. -/
theorem Resource.AtRest.of_get? (rest : r.AtRest p) {h : HostedOf r.kind}
    (there : (p.hosted r.kind).get? r.identifier = some h)
    (there' : (p'.hosted r.kind).get? r.identifier = some h) : r.AtRest p' := by
  obtain ⟨h', prepared, known, found, diff, plan, seen⟩ := rest
  obtain rfl := Option.some.inj ((Host.current?_of_get? there).symm.trans found)
  exact ⟨h, prepared, known, Host.current?_of_get? there', diff, plan, seen⟩

/-- What is at rest under another kind or name stays so. -/
theorem Brought.atRest_of_ne (brought : Brought now p r e r' p')
    (ready : Ready astray used names rs p r) (fresh : Fresh used p.serial p'.serial) {q : Resource}
    (member : q ∈ rs) (rest : q.AtRest p) (other : q.key ≠ r.key) : q.AtRest p' := by
  obtain ⟨h, there, named⟩ := ready.accord.hosts q member
  have advanced := brought.advanced (ready.accord.consistent r.kind)
  have apart : q.kind = r.kind → q.identifier ≠ r'.identifier :=
    advanced.apart ready fresh there (by rw [named]; exact other)
  rw [brought.resource] at apart
  exact rest.of_get? there ((brought.moved.get?_of_apart apart).trans there)

/-- A run leaves at rest what it brought about, and what was at rest before. -/
theorem Brings.atRest (brings : Brings now p qs es qs' p') (accord : Accord astray rs p)
    (numbered : Numbered used names p) (pending : Pending names rs qs)
    (fresh : Fresh used p.serial p'.serial)
    (natural : Natural (UsedWith used p.serial p'.serial) names) :
    (∀ q ∈ rs, q.AtRest p → q.key ∉ qs.map Resource.key → q.AtRest p') ∧ ∀ q ∈ qs', q.AtRest p' := by
  induction brings generalizing rs used astray with
  | nil p => exact ⟨fun q _ rest _ => rest, fun q member => absurd member List.not_mem_nil⟩
  | @cons p p' p'' r r' qs qs' e es brought rest inductionHypothesis =>
    have consistent := accord.consistent
    have advanced := brought.advanced (consistent r.kind)
    have early := advanced.serial_le
    have late := (rest.advances (brought.consistent consistent)).serial_le
    obtain ⟨prepared, name, adopted⟩ := pending.each r List.mem_cons_self
    have ready : Ready astray used names rs p r :=
      ⟨accord, numbered, natural.mono fun _ => .inl, name, adopted⟩
    have known : r'.identifier ≠ "" := by
      rw [brought.resource]
      exact r.spec.identifier_origin_ne_empty (w := p.simulator r.kind) (consistent r.kind) now
    have fresh' := fresh.left early late
    obtain ⟨stays, rests⟩ := inductionHypothesis
      (advanced.accord ready fresh') (advanced.numbered ready) (pending.tail advanced.key_eq)
      (fresh.right early late) (natural.mono fun n => (usedWith_usedWith_iff early late n).mp)
    rw [recordedFrom, if_neg known] at stays
    constructor
    · intro q member atRest apart
      obtain ⟨own, others⟩ := not_or.mp (mt List.mem_cons.mpr apart)
      refine stays q (mem_put_iff.mpr (.inl ⟨member, ?_⟩))
        (brought.atRest_of_ne ready fresh' member atRest own) others
      rw [advanced.key_eq]
      exact own
    · intro q member
      rcases List.mem_cons.mp member with rfl | member
      · -- It is at rest after its own turn, and the later ones are about other names.
        refine stays q (mem_put_iff.mpr (.inr rfl))
          (brought.atRest prepared (consistent r.kind)) ?_
        rw [advanced.key_eq]
        exact (List.nodup_cons.mp pending.distinct).1
      · exact rests q member

/-! ## Taking over what was brought about -/

theorem mem_foldl_recordedFrom_of_mem (member : r ∈ rs) (apart : ∀ q ∈ qs, q.key ≠ r.key) :
    r ∈ qs.foldl recordedFrom rs := by
  induction qs generalizing rs with
  | nil => exact member
  | cons q qs inductionHypothesis =>
    obtain ⟨other, others⟩ := List.forall_mem_cons.mp apart
    refine inductionHypothesis ?_ others
    unfold recordedFrom
    split
    · exact member
    · exact mem_put_iff.mpr (.inl ⟨member, other.symm⟩)

theorem mem_foldl_recordedFrom (distinct : (qs.map Resource.key).Nodup)
    (known : ∀ q ∈ qs, q.identifier ≠ "") : ∀ q ∈ qs, q ∈ qs.foldl recordedFrom rs := by
  induction qs generalizing rs with
  | nil => exact fun q member => absurd member List.not_mem_nil
  | cons r qs inductionHypothesis =>
    obtain ⟨apart, distinct⟩ := List.nodup_cons.mp distinct
    obtain ⟨here, known⟩ := List.forall_mem_cons.mp known
    rw [List.foldl_cons]
    refine List.forall_mem_cons.mpr ⟨?_, inductionHypothesis distinct known⟩
    have own : r ∈ recordedFrom rs r := by
      rw [recordedFrom, if_neg here]
      exact mem_put_iff.mpr (.inr rfl)
    exact mem_foldl_recordedFrom_of_mem own fun q member same =>
      apart (List.mem_map.mpr ⟨q, member, same⟩)

end

namespace Manifest

variable {recorded recorded' : List Resource} {now : Instant}

/-- A resource takes over all that is known of it from what documents keep of its last sync. -/
theorem adoptOne_of_synced (distinct' : (recorded'.map Resource.key).Nodup) {r q : Resource}
    (synced : ∃ h, q = ⟨(adoptOne recorded r).kind, (adoptOne recorded r).spec.synced now h⟩)
    (member : q.kept ∈ recorded') : adoptOne recorded' r = q := by
  obtain ⟨s, adopted, intent⟩ := adoptOne_intent recorded r
  rw [adopted] at synced
  obtain ⟨h, rfl⟩ := synced
  have name : s.name = r.spec.name := Spec.name_eq_of_intent intent
  refine (adoptOne_of_mem distinct' member name).trans ?_
  have same : r.spec.synced now h = s.synced now h := by
    rw [Spec.synced_eq_of_intent intent]
  exact congrArg (Resource.mk r.kind) same

theorem map_adoptOne_of_synced (distinct' : (recorded'.map Resource.key).Nodup)
    {rs qs : List Resource}
    (synced : List.Forall₂ (fun r q =>
      ∃ h, q = ⟨(adoptOne recorded r).kind, (adoptOne recorded r).spec.synced now h⟩) rs qs)
    (there : ∀ q ∈ qs, q.kept ∈ recorded') : rs.map (adoptOne recorded') = qs := by
  induction synced with
  | nil => rfl
  | cons first _ inductionHypothesis =>
    obtain ⟨member, others⟩ := List.forall_mem_cons.mp there
    rw [List.map_cons, adoptOne_of_synced distinct' first member,
      inductionHypothesis others]

end Manifest

/-- After a run that synced a manifest, the manifest takes over what that run brought about, which
is at rest. -/
theorem Coherent.adopt_sync {now : Instant} {serial : Numbering} {cont : Bool}
    (coherent : Coherent astray used names s) (accepted : m.Accepted)
    (unidentified : m.Unidentified) (named : ∀ r ∈ m.resources, names r.key)
    (fresh : Fresh used serial (m.nextSerial s now serial .live cont))
    (natural : Natural (UsedWith used serial (m.nextSerial s now serial .live cont)) names) :
    ∃ es qs p, Brings now (.ofSnapshot serial s.provider) (m.adopt s.resources).resources es qs p ∧
      (s.sync now serial .live cont m).1 = ⟨es, false⟩ ∧
      (s.sync now serial .live cont m).2.provider = p.snapshot ∧ (∀ k, Consistent (p.hosted k)) ∧
      (m.adopt (s.sync now serial .live cont m).2.kept.resources).resources = qs ∧
      ∀ q ∈ qs, q.AtRest p := by
  obtain ⟨accord, numbered⟩ := coherent.provider serial
  have pending := coherent.pending accepted unidentified named
  have after := (coherent.sync accepted unidentified named now serial .live cont fresh natural).kept
  obtain ⟨es, qs, p, brings, ended⟩ :=
    coherent.syncOn_brings accepted unidentified named now serial cont
  have resources := resources_sync s now serial .live cont m
  rw [Manifest.nextSerial, ended] at fresh natural
  rw [ended] at resources
  have report : (s.sync now serial .live cont m).1 = ⟨es, false⟩ := congrArg RunResult.report ended
  have provider : (s.sync now serial .live cont m).2.provider = p.snapshot :=
    congrArg (fun result => result.world.provider.snapshot) ended
  obtain ⟨-, atRest⟩ := brings.atRest accord numbered pending fresh natural
  have known := brings.identifier_ne_empty accord.consistent
  have advances := brings.advances accord.consistent
  have consistent := advances.consistent accord.consistent
  refine ⟨es, qs, p, brings, report, provider, consistent, ?_, atRest⟩
  -- Every resource finds the one that it became, for no later turn replaced that in the record.
  refine Manifest.map_adoptOne_of_synced (after.provider 0).1.distinct
    (List.forall₂_map_left_iff.mp brings.resources) fun q member => ?_
  refine List.mem_map_of_mem ?_
  rw [resources]
  exact mem_foldl_recordedFrom (advances.map_key ▸ pending.distinct) known q member

/-! ## The repeated run -/

/-- The report says that there was nothing to do, and that nothing was wrong. -/
structure ReportEntry.Idle (e : ReportEntry) : Prop where
  status : e.status = .unchanged
  changes : e.changes = []
  tagsUpserted : e.tagsUpserted = []
  tagsRemoved : e.tagsRemoved = []
  warnings : e.warnings = []
  error : e.error = none

theorem Resource.idle_unchanged (r : Resource) (now : Instant) : (r.unchanged now).Idle :=
  ⟨rfl, rfl, rfl, rfl, rfl, rfl⟩

theorem Report.isSuccess_of_idle {es : List ReportEntry} (idle : ∀ e ∈ es, e.Idle) :
    (⟨es, false⟩ : Report).isSuccess = true := by
  refine Report.isSuccess_iff.mpr ⟨rfl, fun e member => ?_⟩
  rw [(idle e member).status]
  nofun

/-- A run that syncs once more leaves everything as the first one left it. -/
theorem Coherent.sync_again {now : Instant} {serial : Numbering} {cont : Bool}
    (coherent : Coherent astray used names s) (accepted : m.Accepted)
    (unidentified : m.Unidentified) (named : ∀ r ∈ m.resources, names r.key)
    (fresh : Fresh used serial (m.nextSerial s now serial .live cont))
    (natural : Natural (UsedWith used serial (m.nextSerial s now serial .live cont)) names)
    {first second : Report × RecordedState} (synced : s.sync now serial .live cont m = first)
    {now' : Instant} {serial' : Numbering} {cont' : Bool}
    (again : first.2.kept.sync now' serial' .live cont' m = second) :
    first.1.isSuccess = true ∧ second.1.isSuccess = true ∧
      second.1.entries.map ReportEntry.key = m.resources.map Resource.key ∧
      (∀ e ∈ second.1.entries, e.Idle) ∧
      second.1.entries.map ReportEntry.identifier = first.1.entries.map ReportEntry.identifier ∧
      second.2.provider = first.2.provider := by
  obtain ⟨es, qs, p, brings, report, provider, consistent, taken, atRest⟩ :=
    coherent.adopt_sync accepted unidentified named fresh natural
  subst synced
  -- What the repeated run is told to be hosted is what the first run left.
  have hosted : ∀ k, (Provider.ofSnapshot serial' p.snapshot).hosted k = p.hosted k :=
    fun k => Provider.hosted_ofSnapshot (consistent k) serial'
  obtain ⟨p', ran, still⟩ := syncAll_atRest ⟨m.snapshotStem, cont'⟩ now'
    (fun q member => (atRest q member).congr (hosted q.kind)) (Provider.quiet_ofSnapshot _ _)
  have ended : m.syncOn (s.sync now serial .live cont m).2.kept now' serial' .live cont' =
      ⟨qs.map (·.syncedAgain now'), ⟨qs.map (·.unchanged now'), false⟩, ⟨p', .live⟩⟩ := by
    show syncAll _ _ (m.adopt (s.sync now serial .live cont m).2.kept.resources).resources
      ⟨.ofSnapshot serial' (s.sync now serial .live cont m).2.provider, .live⟩ = _
    rw [taken, provider]
    exact ran
  have idle : ∀ e ∈ qs.map (·.unchanged now'), e.Idle := by
    intro e member
    obtain ⟨q, -, rfl⟩ := List.mem_map.mp member
    exact q.idle_unchanged now'
  have report' : second.1 = ⟨qs.map (·.unchanged now'), false⟩ :=
    again ▸ congrArg RunResult.report ended
  have provider' : second.2.provider = p'.snapshot :=
    again ▸ congrArg (fun result => result.world.provider.snapshot) ended
  rw [report, report', provider, provider', brings.map_identifier]
  refine ⟨brings.isSuccess, Report.isSuccess_of_idle idle, ?_, idle, ?_, ?_⟩
  · rw [← Manifest.map_key_adopt m (s.sync now serial .live cont m).2.kept.resources, taken,
      List.map_map]
    rfl
  · rw [List.map_map]
    rfl
  · exact Provider.snapshot_congr fun k => (still k).trans (hosted k)

end DesiredState
