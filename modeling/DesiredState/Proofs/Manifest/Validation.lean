import DesiredState.Proofs.Fleet.Account
import DesiredState.Proofs.Record.Runs

/-!
# What validation promises

A manifest is accepted exactly if all its resources are and no two of them have one kind and name.
Nothing that a run checks is left to be found then: whatever was recorded, whatever is hosted and
whatever faults are pending, no resource of an accepted manifest fails at a check, and each is reported
under the kind and name with which it was accepted.

Contents:

* `of_repeatedAfter`, `refusals_eq_nil_iff`, `of_refusals` — what a verdict finds.
* `Judged`, `judged` — the verdict on a manifest.
* `Turn.Called`, `syncOne_called`, `deleteOne_called` — turns that fail at calls only.
* `Reported`, `runAll_reported` — runs of such turns.
* `validate_covers` — the main result.
-/

namespace DesiredState

/-- Why a resource is refused, if it is. -/
def Resource.refusal? (r : Resource) : Option ValidationError :=
  match r.prepare.2 with
  | .ok _ => none
  | .error v => some v

theorem Resource.refusal?_eq_none_iff {r : Resource} :
    r.refusal? = none ↔ r.prepare.2 = .ok () := by
  unfold refusal?
  cases r.prepare.2 <;> simp

theorem Resource.refusal?_eq_some_iff {r : Resource} {v : ValidationError} :
    r.refusal? = some v ↔ r.prepare.2 = .error v := by
  unfold refusal?
  cases r.prepare.2 <;> simp

namespace Manifest

variable {m : Manifest}

/-! ## The verdict -/

/-- The resource that is found repeats one before it, and no one before it does. -/
theorem of_repeatedAfter {seen rs : List Resource} {r : Resource}
    (found : repeatedAfter seen rs = some r) :
    ∃ front rest, rs = front ++ r :: rest ∧ (front.map Resource.key).Nodup ∧
      (∀ q ∈ front, ∀ q' ∈ seen, q'.key ≠ q.key) ∧ ∃ q ∈ seen ++ front, q.key = r.key := by
  induction rs generalizing seen with
  | nil => cases found
  | cons r' rs inductionHypothesis =>
    unfold repeatedAfter at found
    split at found
    next repeats =>
      cases found
      obtain ⟨q, member, same⟩ := List.any_eq_true.mp repeats
      refine ⟨[], rs, rfl, List.nodup_nil, fun _ none => absurd none List.not_mem_nil, q, ?_,
        Resource.sameAs_iff.mp same⟩
      rwa [List.append_nil]
    next apart =>
      obtain ⟨front, rest, rfl, distinct, others, q, member, same⟩ := inductionHypothesis found
      have own : ∀ q ∈ seen, q.key ≠ r'.key := fun q member same =>
        apart (List.any_eq_true.mpr ⟨q, member, Resource.sameAs_iff.mpr same⟩)
      refine ⟨r' :: front, rest, rfl, ?_, ?_, q, ?_, same⟩
      · refine List.nodup_cons.mpr ⟨fun member => ?_, distinct⟩
        obtain ⟨q', there, same'⟩ := List.mem_map.mp member
        exact others q' there r' List.mem_cons_self same'.symm
      · refine List.forall_mem_cons.mpr ⟨own, fun q' there q'' before => ?_⟩
        exact others q' there q'' (List.mem_cons_of_mem r' before)
      · simpa [or_left_comm, or_assoc] using member

theorem repeated?_eq_none_iff : m.repeated? = none ↔ (m.resources.map Resource.key).Nodup := by
  refine ⟨fun none => (nodup_of_repeatedAfter none).1, fun distinct => ?_⟩
  cases found : m.repeated? with
  | none => rfl
  | some r =>
    obtain ⟨front, rest, all, -, -, q, before, same⟩ := of_repeatedAfter found
    rw [List.nil_append] at before
    rw [all, List.map_append, List.map_cons, List.nodup_append] at distinct
    exact absurd same (distinct.2.2 _ (List.mem_map_of_mem before) _ List.mem_cons_self)

theorem refusals_eq (m : Manifest) : m.refusals = m.resources.filterMap Resource.refusal? := by
  refine List.filterMap_congr fun r _ => ?_
  unfold Resource.refusal?
  cases r.prepare.2 <;> rfl

theorem refusals_eq_nil_iff : m.refusals = [] ↔ ∀ r ∈ m.resources, r.prepare.2 = .ok () := by
  rw [refusals_eq, List.filterMap_eq_nil_iff]
  exact forall₂_congr fun _ _ => Resource.refusal?_eq_none_iff

/-- The refusals are those of the refused resources, in order. -/
theorem of_refusals {first : ValidationError} {rest : List ValidationError}
    (refused : m.refusals = first :: rest) :
    ∃ front r back, m.resources = front ++ r :: back ∧ (∀ q ∈ front, q.prepare.2 = .ok ()) ∧
      r.prepare.2 = .error first := by
  rw [refusals_eq, List.filterMap_eq_cons_iff] at refused
  obtain ⟨front, r, back, all, accepted, refusal, -⟩ := refused
  refine ⟨front, r, back, all, fun q member => ?_, Resource.refusal?_eq_some_iff.mp refusal⟩
  exact Resource.refusal?_eq_none_iff.mp (accepted q member)

theorem length_refusals (m : Manifest) :
    m.refusals.length = m.resources.countP fun r => r.prepare.2 ≠ .ok () := by
  rw [refusals_eq, List.length_filterMap_eq_countP]
  refine List.countP_congr fun r _ => ?_
  simp [Option.isSome_iff_ne_none, Resource.refusal?_eq_none_iff]

/-- The verdict on a manifest: it is accepted exactly if there is neither a repetition nor a refusal;
the first repetition is reported before any refusal, and refusals with their number and the first. -/
structure Judged (m : Manifest) (verdict : Except ManifestError ValidationReport) : Prop where
  accepts : (∃ report, verdict = .ok report) ↔
    (∀ r ∈ m.resources, r.prepare.2 = .ok ()) ∧ (m.prepareAll.resources.map Resource.key).Nodup
  repeated : ¬(m.prepareAll.resources.map Resource.key).Nodup →
    ∃ front r rest, m.prepareAll.resources = front ++ r :: rest ∧ (front.map Resource.key).Nodup ∧
      r.key ∈ front.map Resource.key ∧ verdict = .error (.duplicateName r.kind.label r.name)
  refused : (m.prepareAll.resources.map Resource.key).Nodup →
    ¬(∀ r ∈ m.resources, r.prepare.2 = .ok ()) →
    ∃ front r rest v, m.resources = front ++ r :: rest ∧ (∀ q ∈ front, q.prepare.2 = .ok ()) ∧
      r.prepare.2 = .error v ∧
      verdict = .error (.invalid (m.resources.countP fun r => r.prepare.2 ≠ .ok ()) v)

theorem judged (m : Manifest) (allowUntagged : Bool) : m.Judged (m.validate allowUntagged).2 := by
  show m.Judged (m.verdict allowUntagged)
  unfold verdict
  -- One case for each line of the verdict.
  cases repeated : m.prepareAll.repeated? with
  | some r =>
    have not : ¬(m.prepareAll.resources.map Resource.key).Nodup := fun distinct =>
      nomatch (repeated?_eq_none_iff.mpr distinct).symm.trans repeated
    obtain ⟨front, rest, all, distinct, -, q, before, same⟩ := of_repeatedAfter repeated
    refine ⟨⟨nofun, fun accepted => absurd accepted.2 not⟩, fun _ => ?_,
      fun distinct => absurd distinct not⟩
    exact ⟨front, r, rest, all, distinct, List.mem_map.mpr ⟨q, before, same⟩, rfl⟩
  | none =>
    have distinct := repeated?_eq_none_iff.mp repeated
    cases refused : m.refusals with
    | nil =>
      have accepted := refusals_eq_nil_iff.mp refused
      exact ⟨⟨fun _ => ⟨accepted, distinct⟩, fun _ => ⟨_, rfl⟩⟩, absurd distinct,
        fun _ => absurd accepted⟩
    | cons first rest =>
      obtain ⟨front, r, back, all, accepted, refusal⟩ := of_refusals refused
      have count : rest.length + 1 = m.resources.countP fun r => r.prepare.2 ≠ .ok () := by
        rw [← length_refusals, refused, List.length_cons]
      have not : ¬∀ r ∈ m.resources, r.prepare.2 = .ok () := fun accepted =>
        nomatch (refusals_eq_nil_iff.mpr accepted).symm.trans refused
      refine ⟨⟨nofun, fun holds => absurd holds.1 not⟩, absurd distinct, fun _ _ => ?_⟩
      exact ⟨front, r, back, first, all, accepted, refusal,
        congrArg (fun n => Except.error (ManifestError.invalid n first)) count⟩

end Manifest

/-! ## Runs that fail at calls only -/

theorem Kind.head?_label (k : Kind) : ∃ c, k.label.toList.head? = some c ∧ c ≠ 'V' := by
  cases k <;> exact ⟨_, rfl, by decide⟩

theorem head?_toList_append {text : String} {c : Char} (begins : text.toList.head? = some c)
    (more : String) : (text ++ more).toList.head? = some c := by
  rw [String.toList_append, List.head?_append, begins, Option.some_or]

/-- In a report, the failure of a call cannot be taken for a refused specification. -/
theorem Failure.OfCall.message_ne {k : Kind} {f : Failure} (called : f.OfCall k)
    (v : ValidationError) : f.message ≠ (Failure.validation v).message := by
  obtain ⟨c, label, other⟩ := k.head?_label
  -- Messages begin with the label of the kind, unless they are about validation.
  have first : f.message.toList.head? = some c := by
    cases called with
    | provider op error =>
      exact head?_toList_append (head?_toList_append (head?_toList_append
        (head?_toList_append label _) _) _) _
    | cancelled op => exact head?_toList_append (head?_toList_append (head?_toList_append label _) _) _
  have first' : (Failure.validation v).message.toList.head? = some 'V' :=
    head?_toList_append (by decide) v.message
  intro same
  rw [same, first'] at first
  exact other (Option.some.inj first).symm

variable {α : Type} {work : Resource → World → Turn} {cont : Bool} {rs : List Resource}
  {r : Resource} {w : World}

/-- A turn keeps kind and name of its resource, and fails at a call if at all. -/
structure Turn.Called (r : Resource) (t : Turn) : Prop where
  faithful : t.Faithful r
  key : t.resource.key = r.key
  failure : ∀ f, t.failure = some f → f.OfCall r.kind

theorem failure_workOn (r : Resource) (w : World) (run : Run r.kind (Simulator r.kind) α)
    (report : Spec r.kind → α → ReportEntry) {f : Failure}
    (failed : (workOn r w run report).failure = some f) :
    (run.run ⟨r.spec, w.provider.simulator r.kind, w.token⟩).1 = .error f := by
  rcases ran : run.run ⟨r.spec, w.provider.simulator r.kind, w.token⟩ with ⟨f' | a, y⟩
  · simp only [workOn, ran] at failed
    exact congrArg Except.error (Option.some.inj failed)
  · simp only [workOn, ran] at failed
    cases failed

theorem syncOne_called (settings : RunSettings) (now : Instant) (prepared : r.spec.Prepared)
    (w : World) : (syncOne settings now r w).Called r := by
  have kept := (Engine.sync_keeps (Engine.createsAsAsked settings now r.kind) prepared
    now ⟨r.spec, w.provider.simulator r.kind, w.token⟩ rfl).ends
  refine ⟨syncOne_faithful settings now r w, ?_, fun f failed => ?_⟩
  · rw [syncOne, resource_workOn]
    exact Resource.key_eq_of_intent kept.1
  · exact kept.2 f (failure_workOn r w _ _ failed)

theorem deleteOne_called (settings : RunSettings) (now : Instant) (prepared : r.spec.Prepared)
    (w : World) : (deleteOne settings now r w).Called r := by
  have kept := ((settings.engine now r.kind).delete_keeps r.spec
    ⟨r.spec, w.provider.simulator r.kind, w.token⟩ rfl).ends
  refine ⟨deleteOne_faithful settings now r w, ?_, fun f failed => ?_⟩
  · rw [resource_deleteOne]
  · rcases kept.2 f (failure_workOn r w _ _ failed) with called | ⟨v, -, refused⟩
    · exact called
    · obtain ⟨policy, effective⟩ := prepared.effectivePolicy_eq
      cases refused.symm.trans effective

/-- If an entry has an error, then it is that of a call. -/
def ReportEntry.Called (e : ReportEntry) : Prop :=
  ∀ text, e.error = some text → ∃ f : Failure, f.OfCall e.kind ∧ text = f.message

/-- A run reports every resource under its kind and name, and each failure is that of a call; none is
the refusal of a specification. -/
structure Reported (rs : List Resource) (report : Report) : Prop where
  keys : report.entries.map (fun e => (e.kind, e.name)) = rs.map Resource.key
  failures : ∀ e ∈ report.entries, e.Called
  unrefused : ∀ e ∈ report.entries, ∀ v : ValidationError,
    e.error ≠ some (Failure.validation v).message

theorem Turn.Called.entry {t : Turn} (called : t.Called r) : t.entry.Called := by
  intro text error
  have kind : t.entry.kind = r.kind := called.faithful.names.kind.trans called.faithful.kind
  cases failure : t.failure with
  | none => cases (called.faithful.fine failure).error.symm.trans error
  | some f =>
    rw [called.faithful.failed f failure] at error
    exact ⟨f, kind ▸ called.failure f failure, (Option.some.inj error).symm⟩

theorem runAll_reported (called : ∀ r ∈ rs, ∀ w, (work r w).Called r) :
    Reported rs (runAll work cont rs w).report := by
  have told : List.Forall₂ (fun e r => e.Called ∧ (e.kind, e.name) = r.key)
      (runAll work cont rs w).report.entries (runAll work cont rs w).resources := by
    refine runAll_entries (fun r member w => ⟨(called r member w).entry, ?_⟩)
      fun r _ => ⟨nofun, rfl⟩
    have names := (called r member w).faithful.names
    rw [Resource.key, names.kind, names.name]
  have resources : rs.map Resource.key = (runAll work cont rs w).resources.map Resource.key :=
    map_eq_of_forall₂ (runAll_resources (fun r member w => (called r member w).key.symm)
      fun _ _ => rfl)
  rw [List.forall₂_and_left] at told
  refine ⟨?_, told.1, fun e member v refused => ?_⟩
  · rw [resources]
    exact map_eq_of_forall₂ told.2
  · obtain ⟨f, called, same⟩ := told.1 e member _ refused
    exact called.message_ne v same.symm

/-- What validation accepts needs no further check: its runs report every resource as it was accepted,
and fail at calls only. -/
theorem validate_covers (m : Manifest) (allowUntagged : Bool) :
    m.Judged (m.validate allowUntagged).2 ∧
      ∀ report, (m.validate allowUntagged).2 = .ok report →
        ∀ (recorded : List Resource) (settings : RunSettings) (now : Instant) (w : World),
          let accepted := (m.validate allowUntagged).1
          let rs := (accepted.adopt recorded).resources
          rs.map Resource.key = accepted.resources.map Resource.key ∧
            Reported rs (syncAll settings now rs w).report ∧
            Reported rs.reverse (deleteAll settings now rs w).report := by
  refine ⟨m.judged allowUntagged, fun report accepts recorded settings now w => ?_⟩
  have accepted : (m.validate allowUntagged).1.Accepted :=
    Manifest.accepted_of_validate (Prod.ext rfl accepts)
  have prepared := Manifest.prepared_adopt accepted recorded
  refine ⟨Manifest.map_key_adopt _ recorded, ?_, ?_⟩
  · exact runAll_reported fun r member w => syncOne_called settings now (prepared r member) w
  · refine runAll_reported fun r member w => deleteOne_called settings now (prepared r ?_) w
    exact List.mem_reverse.mp member

namespace Sample

/-- A zone, whose name is not in its usual form yet, and a key. -/
def listed : Manifest where
  defaultTags := .empty
  snapshotStem := "final"
  resources := [⟨.dnsZone, .ofDesired .dnsZone "Example.COM" ⟨false, none, none, none⟩⟩,
    ⟨.cryptoKey, spec⟩]

/-- A zone of that name was hosted once. -/
def remembered : List Resource :=
  [⟨.dnsZone, (Spec.ofDesired .dnsZone "example.com." ⟨false, none, none, none⟩).withIdentifier
    "zone-gone"⟩]

/-- Hosts that refuse the next request of every operation. -/
def broken : World :=
  ⟨⟨1, fun _ => ⟨.empty, [], fun _ => some (.rejected "out of order")⟩⟩, .live⟩

end Sample

/-- Both resources fail, at a call and under the names of their completed specifications. -/
theorem validate_covers_listed :
    let rs := ((Sample.listed.validate true).1.adopt Sample.remembered).resources
    let report := (syncAll ⟨"final", true⟩ .epoch rs Sample.broken).report
    (Sample.listed.validate true).2 = .ok ⟨2, []⟩ ∧
      rs.map Resource.identifier = ["zone-gone", ""] ∧
      report.entries.map ReportEntry.status = [.failed, .failed] ∧
      report.entries.map (fun e => (e.kind, e.name)) =
        [(.dnsZone, "example.com."), (.cryptoKey, "alias/app")] ∧
      ∀ e ∈ report.entries, ∀ v : ValidationError, e.error ≠ some (Failure.validation v).message := by
  have accepts : (Sample.listed.validate true).2 = .ok ⟨2, []⟩ := by decide +kernel
  obtain ⟨-, synced, -⟩ := (validate_covers Sample.listed true).2 _ accepts Sample.remembered
    ⟨"final", true⟩ .epoch Sample.broken
  refine ⟨accepts, by decide +kernel, by decide +kernel, ?_, synced.unrefused⟩
  rw [synced.keys]
  decide +kernel

end DesiredState
