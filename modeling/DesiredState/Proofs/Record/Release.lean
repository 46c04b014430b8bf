import DesiredState.Proofs.Fleet.Removals
import DesiredState.Proofs.Record.Accord

/-!
# Deletions keep the accord

A deletion forgets what it took from the provider and what it gave up.  What it gave up is hosted still
but recorded no longer: from then on it is astray.  A run that is cancelled forgets nothing from there
on.

Contents:

* `releasedFrom` — the record after a deletion.
* `Dropped.accord` — one deletion.
* `Accorded`, `deleteAll_accorded` — a run of them.
-/

namespace DesiredState

variable {settings : RunSettings} {now : Instant} {astray : Kind × String → Prop}
  {used : Nat → Prop} {names : Kind × String → Prop} {rs : List Resource} {p p' : Provider}
  {r : Resource}

/-- The record after a deletion. -/
def releasedFrom (rs : List Resource) (e : ReportEntry) : List Resource :=
  if e.isReleased then rs.eraseP (·.isNamed e.kind e.name) else rs

theorem resources_release (now : Instant) (s : RecordedState) (e : ReportEntry) :
    (s.release now e).resources = releasedFrom s.resources e := by
  unfold RecordedState.release releasedFrom RecordedState.forget
  split
  · cases found : s.resources.find? (·.isNamed e.kind e.name) with
    | none =>
      have absent := List.find?_eq_none.mp found
      exact (List.eraseP_of_forall_not absent).symm
    | some r => rfl
  · rfl

theorem version_release (now : Instant) (s : RecordedState) (e : ReportEntry) :
    (s.release now e).version = s.version := by
  unfold RecordedState.release RecordedState.forget
  split
  · split <;> rfl
  · rfl

theorem resources_foldl_release (now : Instant) (s : RecordedState) (es : List ReportEntry) :
    (es.foldl (RecordedState.release now) s).resources = es.foldl releasedFrom s.resources := by
  induction es generalizing s with
  | nil => rfl
  | cons e es inductionHypothesis =>
    rw [List.foldl_cons, List.foldl_cons, inductionHypothesis, resources_release]

theorem version_foldl_release (now : Instant) (s : RecordedState) (es : List ReportEntry) :
    (es.foldl (RecordedState.release now) s).version = s.version := by
  induction es generalizing s with
  | nil => rfl
  | cons e es inductionHypothesis => rw [List.foldl_cons, inductionHypothesis, version_release]

theorem mem_eraseP_iff (key : Kind × String) (distinct : (rs.map Resource.key).Nodup) {q : Resource} :
    q ∈ rs.eraseP (·.isNamed key.1 key.2) ↔ q ∈ rs ∧ q.key ≠ key := by
  induction rs with
  | nil => simp
  | cons r rest inductionHypothesis =>
    obtain ⟨apart, distinct⟩ := List.nodup_cons.mp distinct
    by_cases named : r.key = key
    · rw [List.eraseP_cons_of_pos (Resource.isNamed_iff.mpr named), List.mem_cons]
      have others : q ∈ rest → q.key ≠ key := fun member same =>
        apart (List.mem_map.mpr ⟨q, member, same.trans named.symm⟩)
      constructor
      · exact fun member => ⟨.inr member, others member⟩
      · rintro ⟨rfl | member, other⟩
        · exact absurd named other
        · exact member
    · rw [List.eraseP_cons_of_neg (mt Resource.isNamed_iff.mp named), List.mem_cons, List.mem_cons,
        inductionHypothesis distinct]
      constructor
      · rintro (rfl | ⟨member, other⟩)
        · exact ⟨.inl rfl, named⟩
        · exact ⟨.inr member, other⟩
      · rintro ⟨rfl | member, other⟩
        · exact .inl rfl
        · exact .inr ⟨member, other⟩

theorem mem_releasedFrom_iff {action : DeleteAction} (distinct : (rs.map Resource.key).Nodup)
    {q : Resource} :
    q ∈ releasedFrom rs (.deleted r.spec action) ↔
      q ∈ rs ∧ ((ReportEntry.deleted r.spec action).isReleased = true → q.key ≠ r.key) := by
  unfold releasedFrom
  split
  next released =>
    simp only [released, true_implies]
    exact mem_eraseP_iff r.key distinct
  next kept => exact ⟨fun member => ⟨member, fun released => absurd released kept⟩, And.left⟩

/-- What is reported as released was taken from the provider, was given up, or was not there. -/
theorem isReleased_cases {action : DeleteAction} (s : Spec r.kind)
    (released : (ReportEntry.deleted s action).isReleased = true) :
    action = .delete ∨ (∃ id, action = .snapshotThenDelete id) ∨ action = .skip .orphaned ∨
      action = .skip .neverCreated := by
  unfold ReportEntry.isReleased ReportEntry.deleted at released
  cases action with
  | delete => exact .inl rfl
  | snapshotThenDelete id => exact .inr (.inl ⟨id, rfl⟩)
  | stop => cases released
  | skip reason =>
    cases reason with
    | orphaned => exact .inr (.inr (.inl rfl))
    | neverCreated => exact .inr (.inr (.inr rfl))
    | retained => cases released
    | alreadyStopped => cases released

theorem keeps_of_not_released {action : DeleteAction} {s : Spec r.kind}
    (kept : ¬(ReportEntry.deleted s action).isReleased = true) : action.Keeps := by
  cases action with
  | delete => exact absurd rfl kept
  | snapshotThenDelete id => exact absurd rfl kept
  | stop => exact .inl rfl
  | skip reason => exact .inr ⟨reason, rfl⟩

/-! ## What is recorded of the resource of a turn -/

theorem Resource.Adopted.identifier_eq (adopted : r.Adopted rs)
    (distinct : (rs.map Resource.key).Nodup) {q : Resource} (member : q ∈ rs)
    (same : q.key = r.key) : q.identifier = r.identifier := by
  cases adopted with
  | known q' member' same' identifier =>
    rw [List.inj_on_of_nodup_map distinct member member' (same.trans same'.symm)]
    exact identifier
  | unknown none absent => exact absurd same (absent q member)

/-- A recorded resource with the identifier of the turn is the resource of the turn. -/
theorem Accord.key_eq (accord : Accord astray rs p) (adopted : r.Adopted rs) {q : Resource}
    (member : q ∈ rs) (kind : q.kind = r.kind) (identifier : q.identifier = r.identifier) :
    q.key = r.key := by
  obtain ⟨h, there, name⟩ := accord.hosts q member
  have known : r.identifier ≠ "" := identifier ▸ (accord.consistent _ _ _ there).1
  obtain ⟨h', there', name'⟩ := accord.of_adopted adopted known
  obtain ⟨k, s⟩ := q
  obtain rfl : k = r.kind := kind
  rw [identifier] at there
  obtain rfl := Option.some.inj (there.symm.trans there')
  exact congrArg (Prod.mk r.kind) (name.symm.trans name')

namespace Dropped

variable {action : DeleteAction} (dropped : Dropped settings now p r action p')
include dropped

theorem get?_of_ne {k : Kind} {key : String} (other : k = r.kind → key ≠ r.identifier) :
    (p'.hosted k).get? key = (p.hosted k).get? key := by
  by_cases same : k = r.kind
  · subst same
    rw [dropped.moved.hosted, action.leaves_of_ne (other rfl)]
  · rw [dropped.moved.others k same]

/-- What is hosted after a turn was hosted before it, under the same name. -/
theorem of_get? {k : Kind} {key : String} {h' : HostedOf k}
    (there : (p'.hosted k).get? key = some h') :
    ∃ h, (p.hosted k).get? key = some h ∧ h'.name = h.name ∧ h'.identifier = h.identifier := by
  by_cases same : k = r.kind
  · subst same
    rw [dropped.moved.hosted] at there
    exact action.of_leaves there
  · rw [dropped.moved.others k same] at there
    exact ⟨h', there, rfl, rfl⟩

theorem neverCreated_iff : action = .skip .neverCreated ↔ r.identifier = "" := by
  obtain ⟨policy, -, rfl⟩ := dropped.resolved
  constructor
  · exact fun never => Classical.byContradiction fun known =>
      DeleteAction.resolve_ne_neverCreated known never
  · intro unknown
    exact DeleteAction.resolve_of_unknown
      (show ((settings.engine now r.kind).deletionContext r.spec).identifier = "" from unknown)

theorem numbered (numbered : Numbered used names p) : Numbered used names p' where
  keyed there := by
    obtain ⟨h, before, -, -⟩ := dropped.of_get? there
    exact numbered.keyed before
  named there := by
    obtain ⟨h, before, name, -⟩ := dropped.of_get? there
    exact name ▸ numbered.named before

theorem consistent (consistent : ∀ k, Consistent (p.hosted k)) (k : Kind) :
    Consistent (p'.hosted k) := by
  intro key h' there
  obtain ⟨h, before, -, identifier⟩ := dropped.of_get? there
  obtain ⟨known, same⟩ := consistent k key h before
  exact ⟨known, identifier.trans same⟩

/-- What a deletion releases and leaves where it is was given up. -/
theorem orphaned_of_released (consistent : Consistent (p.hosted r.kind))
    (released : (ReportEntry.deleted r.spec action).isReleased = true) {h' : HostedOf r.kind}
    (there : (p'.hosted r.kind).get? r.identifier = some h') : action = .skip .orphaned := by
  obtain ⟨h, before, -, -⟩ := dropped.of_get? there
  rw [dropped.moved.hosted] at there
  rcases isReleased_cases r.spec released with rfl | ⟨id, rfl⟩ | orphaned | never
  · simp [DeleteAction.leaves, Dict.get?_erase] at there
  · simp [DeleteAction.leaves, Dict.get?_erase] at there
  · exact orphaned
  · exact absurd (dropped.neverCreated_iff.mp never) (consistent _ _ before).1

/-- A deletion keeps record and provider in accord; what it gave up is astray. -/
theorem accord (accord : Accord astray rs p) (adopted : r.Adopted rs) :
    Accord (fun key => astray key ∨ key = r.key ∧ action = .skip .orphaned)
      (releasedFrom rs (.deleted r.spec action)) p' where
  consistent := dropped.consistent accord.consistent
  named := by
    intro k key key' h h' there there' same
    obtain ⟨h₀, before, name, -⟩ := dropped.of_get? there
    obtain ⟨h₀', before', name', -⟩ := dropped.of_get? there'
    exact accord.named before before' (name.symm.trans (same.trans name'))
  distinct := by
    unfold releasedFrom
    split
    · exact (List.eraseP_sublist.map Resource.key).nodup accord.distinct
    · exact accord.distinct
  hosts := by
    intro q member
    obtain ⟨member, kept⟩ := (mem_releasedFrom_iff accord.distinct).mp member
    obtain ⟨h, there, name⟩ := accord.hosts q member
    by_cases own : q.kind = r.kind ∧ q.identifier = r.identifier
    · -- The resource of the turn is recorded still, so its action takes nothing away.
      have same := accord.key_eq adopted member own.1 own.2
      have keeps := keeps_of_not_released fun released => kept released same
      obtain ⟨k, s⟩ := q
      obtain ⟨rfl, identifier⟩ := own
      obtain ⟨h', there', name'⟩ := DeleteAction.leaves_of_keeps keeps there
      refine ⟨h', ?_, name'.trans name⟩
      rw [dropped.moved.hosted, ← identifier]
      exact there'
    · refine ⟨h, ?_, name⟩
      rw [dropped.get?_of_ne fun kind same => own ⟨kind, same⟩]
      exact there
  recorded := by
    intro k key h' there
    obtain ⟨h, before, name, -⟩ := dropped.of_get? there
    rw [name]
    rcases accord.recorded before with ⟨q, member, same, identifier⟩ | gone
    case inr => exact .inr (.inl gone)
    by_cases own : (ReportEntry.deleted r.spec action).isReleased = true ∧ q.key = r.key
    · -- What was released under its own name was given up, or it would not be hosted still.
      obtain ⟨released, own⟩ := own
      have held : key = r.identifier :=
        identifier.symm.trans (adopted.identifier_eq accord.distinct member own)
      obtain ⟨rfl, -⟩ := Prod.mk.inj (same.symm.trans own)
      exact .inr (.inr ⟨same.symm.trans own,
        dropped.orphaned_of_released (accord.consistent _) released (held ▸ there)⟩)
    · exact .inl ⟨q, (mem_releasedFrom_iff accord.distinct).mpr
        ⟨member, fun released same => own ⟨released, same⟩⟩, same, identifier⟩

end Dropped

/-! ## A run of deletions -/

/-- The kind and the name of what is reported. -/
def ReportEntry.key (e : ReportEntry) : Kind × String := (e.kind, e.name)

/-- A deletion gave up what has this kind and name. -/
def ReportEntry.GivesUp (e : ReportEntry) (key : Kind × String) : Prop :=
  e.key = key ∧ e.deleteAction = some (.skip .orphaned)

/-- After a deletion the other resources wait for theirs. -/
theorem Pending.released {qs : List Resource} {action : DeleteAction}
    (pending : Pending names rs (r :: qs)) (distinct : (rs.map Resource.key).Nodup) :
    Pending names (releasedFrom rs (.deleted r.spec action)) qs :=
  pending.others fun _ other => (mem_releasedFrom_iff distinct).trans
    ⟨And.left, fun member => ⟨member, fun _ => other⟩⟩

/-- Where no action was taken nothing is released. -/
theorem foldl_releasedFrom_eq {es : List ReportEntry} (idle : ∀ e ∈ es, e.deleteAction = none) :
    es.foldl releasedFrom rs = rs := by
  induction es with
  | nil => rfl
  | cons e es inductionHypothesis =>
    obtain ⟨here, idle⟩ := List.forall_mem_cons.mp idle
    have kept : releasedFrom rs e = rs := by
      rw [releasedFrom, ReportEntry.isReleased, here]
      rfl
    rw [List.foldl_cons, kept, inductionHypothesis idle]

/-- Record and provider are in accord after a run that deletes, but for what it gave up. -/
structure Accorded (astray : Kind × String → Prop) (used : Nat → Prop)
    (names : Kind × String → Prop) (rs : List Resource) (result : RunResult) : Prop where
  accord : Accord (fun key => astray key ∨ ∃ e ∈ result.report.entries, e.GivesUp key)
    (result.report.entries.foldl releasedFrom rs) result.world.provider
  numbered : Numbered used names result.world.provider

theorem Accorded.of_idle {result : RunResult} (accord : Accord astray rs result.world.provider)
    (numbered : Numbered used names result.world.provider)
    (idle : ∀ e ∈ result.report.entries, e.deleteAction = none) :
    Accorded astray used names rs result := by
  refine ⟨?_, numbered⟩
  rw [foldl_releasedFrom_eq idle]
  exact accord.mono fun _ => .inl

theorem runAll_deleteOne_accorded (settings : RunSettings) (now : Instant) (cont : Bool)
    {qs : List Resource} (accord : Accord astray rs p) (numbered : Numbered used names p)
    (pending : Pending names rs qs) (quiet : p.Quiet) {token : Token} (answers : token.Answers) :
    Accorded astray used names rs (runAll (deleteOne settings now) cont qs ⟨p, token⟩) := by
  -- Each turn adds to what is astray; the accord is kept up to that.
  induction qs generalizing p rs astray token with
  | nil => exact ⟨accord.mono fun _ => .inl, numbered⟩
  | cons r qs inductionHypothesis =>
    obtain ⟨prepared, -, adopted⟩ := pending.each r List.mem_cons_self
    have turned := deleteOne_dismissed settings now prepared (accord.held adopted) quiet answers
    have cases := runAll_cases (deleteOne settings now) cont r qs ⟨p, token⟩
    generalize deleteOne settings now r ⟨p, token⟩ = turn at turned cases
    cases turned with
    | @dropped action p' token' answers' dropped =>
      obtain ⟨⟨f, failed, -⟩, -⟩ | ⟨-, ran⟩ := cases
      · cases failed
      obtain ⟨accord', numbered'⟩ := inductionHypothesis (dropped.accord accord adopted)
        (dropped.numbered numbered) (pending.released accord.distinct) dropped.moved.quiet answers'
      rw [ran]
      refine ⟨accord'.mono ?_, numbered'⟩
      rintro key ((gone | ⟨rfl, rfl⟩) | ⟨e, member, gives⟩)
      · exact .inl gone
      · exact .inr ⟨_, List.mem_cons_self, rfl, rfl⟩
      · exact .inr ⟨e, List.mem_cons_of_mem _ member, gives⟩
    | @cut f p' token' cancelled same =>
      -- Nothing more is done, so the record stays as it is.
      obtain ⟨-, ran⟩ | ⟨goesOn, -⟩ := cases
      case inr => exact absurd ⟨f, rfl, .inr cancelled⟩ goesOn
      have idle : ∀ e ∈ ReportEntry.failed r f.message :: qs.map fun q => .ofStatus q .notRun,
          e.deleteAction = none :=
        List.forall_mem_cons.mpr ⟨rfl, List.forall_mem_map.mpr fun q _ => rfl⟩
      rw [ran]
      exact .of_idle (accord.congr same) (numbered.congr same) idle

theorem Pending.reverse {qs : List Resource} (pending : Pending names rs qs) :
    Pending names rs qs.reverse where
  distinct := by
    rw [List.map_reverse]
    exact List.nodup_reverse.mpr pending.distinct
  each q member := pending.each q (List.mem_reverse.mp member)

/-- A run that deletes keeps record and provider in accord, wherever it is cancelled. -/
theorem deleteAll_accorded (settings : RunSettings) (now : Instant) {qs : List Resource}
    (accord : Accord astray rs p) (numbered : Numbered used names p) (pending : Pending names rs qs)
    (quiet : p.Quiet) {token : Token} (answers : token.Answers) :
    Accorded astray used names rs (deleteAll settings now qs ⟨p, token⟩) :=
  runAll_deleteOne_accorded settings now settings.continueOnError accord numbered pending.reverse
    quiet answers

end DesiredState
