import DesiredState.Manifest.Validation
import DesiredState.Proofs.Record.Documents
import DesiredState.Proofs.Record.Release

/-!
# Runs keep the recorded state coherent

A recorded state is coherent when what it records and what it says is hosted are in accord.  A new
state is coherent, a coherent state is so after it was read back from its file, and every run of an
accepted manifest that declares no identifiers leaves a coherent state.

Contents:

* `Manifest.Accepted`, `accepted_of_validate` — the manifests that are run.
* `Manifest.pending_adopt` — what a manifest takes over from a state.
* `Coherent` — the states.
* `Coherent.new`, `Coherent.kept`, `Coherent.sync`, `Coherent.delete` — where they come from.
* `Coherent.sync_identifies` — a run that nothing cuts learns of all resources.
-/

namespace DesiredState

open RecordedState (put)

/-! ## Accepted manifests -/

namespace Manifest

/-- All resources are prepared, and no two have one kind and name. -/
structure Accepted (m : Manifest) : Prop where
  prepared : ∀ r ∈ m.resources, r.spec.Prepared
  distinct : (m.resources.map Resource.key).Nodup

/-- No resource declares an identifier. -/
def Unidentified (m : Manifest) : Prop := ∀ r ∈ m.resources, r.identifier = ""

theorem nodup_of_repeatedAfter {seen rs : List Resource} (none : repeatedAfter seen rs = none) :
    (rs.map Resource.key).Nodup ∧ ∀ r ∈ rs, ∀ q ∈ seen, q.key ≠ r.key := by
  induction rs generalizing seen with
  | nil => exact ⟨List.nodup_nil, fun r member => absurd member List.not_mem_nil⟩
  | cons r rest inductionHypothesis =>
    unfold repeatedAfter at none
    split at none
    · cases none
    next apart =>
      obtain ⟨distinct, others⟩ := inductionHypothesis none
      have own : ∀ q ∈ seen, q.key ≠ r.key := fun q member same =>
        apart (List.any_eq_true.mpr ⟨q, member, Resource.sameAs_iff.mpr same⟩)
      refine ⟨List.nodup_cons.mpr ⟨fun member => ?_, distinct⟩, fun q member => ?_⟩
      · obtain ⟨q, there, same⟩ := List.mem_map.mp member
        exact others q there r List.mem_cons_self same.symm
      · rcases List.mem_cons.mp member with rfl | member
        · exact own
        · exact fun q' there => others q member q' (List.mem_cons_of_mem r there)

/-- A verdict that accepts a manifest found no repetition and no refusal. -/
theorem of_verdict {m : Manifest} {strict : Bool} {report : ValidationReport}
    (accepts : m.verdict strict = .ok report) :
    m.prepareAll.repeated? = none ∧ m.refusals = [] := by
  unfold verdict at accepts
  split at accepts
  · cases accepts
  · cases accepts
  next repeated none => exact ⟨repeated, none⟩

/-- A manifest is accepted once its resources are completed. -/
theorem accepted_of_validate {m m' : Manifest} {strict : Bool} {report : ValidationReport}
    (validated : m.validate strict = (m', .ok report)) : m'.Accepted := by
  have same : m.prepareAll = m' := congrArg Prod.fst validated
  obtain ⟨repeated, none⟩ := of_verdict (congrArg Prod.snd validated)
  subst same
  refine ⟨fun r member => ?_, (nodup_of_repeatedAfter repeated).1⟩
  obtain ⟨q, there, rfl⟩ := List.mem_map.mp member
  have passes := List.filterMap_eq_nil_iff.mp none q there
  have accepted : q.spec.prepare.2 = .ok () := by
    rw [show q.spec.prepare.2 = q.prepare.2 from rfl]
    revert passes
    cases q.prepare.2 with
    | ok _ => exact fun _ => rfl
    | error v => exact fun passes => nomatch passes
  exact Spec.prepared_prepare accepted

/-! ## Taking over -/

/-- The resource with what was recorded of it. -/
def adoptOne (recorded : List Resource) (r : Resource) : Resource :=
  (adoptOne? recorded r).getD r

theorem adoptOne_of_absent {recorded : List Resource} {r : Resource}
    (absent : ∀ q ∈ recorded, q.key ≠ r.key) : adoptOne recorded r = r := by
  have none : recorded.find? r.sameAs = none :=
    List.find?_eq_none.mpr fun q member same => absent q member (Resource.sameAs_iff.mp same)
  simp [adoptOne, adoptOne?, none]

theorem find?_sameAs {recorded : List Resource} (distinct : (recorded.map Resource.key).Nodup)
    {r q : Resource} (member : q ∈ recorded) (same : q.key = r.key) :
    recorded.find? r.sameAs = some q := by
  cases found : recorded.find? r.sameAs with
  | none => exact absurd (Resource.sameAs_iff.mpr same) (List.find?_eq_none.mp found q member)
  | some q' =>
    have same' := Resource.sameAs_iff.mp (List.find?_some found)
    rw [List.inj_on_of_nodup_map distinct (List.mem_of_find?_eq_some found) member
      (same'.trans same.symm)]

/-- What is taken over is what is known of the hosted resource. -/
theorem adoptOne_of_mem {recorded : List Resource} (distinct : (recorded.map Resource.key).Nodup)
    {k : Kind} {s t : Spec k} (member : (⟨k, t⟩ : Resource) ∈ recorded) (same : t.name = s.name) :
    adoptOne recorded ⟨k, s⟩ = ⟨k, { s with
      shared := { s.shared with
        identifier := t.identifier
        lastSyncTime := t.shared.lastSyncTime }
      observed := t.observed }⟩ := by
  have found := find?_sameAs distinct member (r := ⟨k, s⟩) (congrArg (Prod.mk k) same)
  simp [adoptOne, adoptOne?, found, Resource.adopt?, Resource.identifier, Resource.shared]

/-- What a resource takes over, whatever was recorded, says nothing about what it asks for. -/
theorem adoptOne_intent (recorded : List Resource) (r : Resource) :
    ∃ s : Spec r.kind, adoptOne recorded r = ⟨r.kind, s⟩ ∧ s.intent = r.spec.intent := by
  unfold adoptOne adoptOne?
  cases recorded.find? r.sameAs with
  | none => exact ⟨r.spec, rfl, rfl⟩
  | some q =>
    rw [Option.bind_some, Resource.adopt?]
    split
    next same => exact ⟨_, rfl, rfl⟩
    next => exact ⟨r.spec, rfl, rfl⟩

theorem adopted_adoptOne {recorded : List Resource} (distinct : (recorded.map Resource.key).Nodup)
    {r : Resource} (unidentified : r.identifier = "") : (adoptOne recorded r).Adopted recorded := by
  by_cases known : ∃ q ∈ recorded, q.key = r.key
  · obtain ⟨⟨k, t⟩, member, same⟩ := known
    obtain ⟨k', s⟩ := r
    obtain ⟨rfl, name⟩ := Prod.mk.inj same
    rw [adoptOne_of_mem distinct member name]
    exact .known _ member same rfl
  · have absent : ∀ q ∈ recorded, q.key ≠ r.key := fun q member same => known ⟨q, member, same⟩
    rw [adoptOne_of_absent absent]
    exact .unknown unidentified absent

theorem key_adoptOne (recorded : List Resource) (r : Resource) :
    (adoptOne recorded r).key = r.key := by
  obtain ⟨s, adopted, intent⟩ := adoptOne_intent recorded r
  rw [adopted]
  exact Resource.key_eq_of_intent intent

variable {m : Manifest} {recorded : List Resource}

theorem map_key_adopt (m : Manifest) (recorded : List Resource) :
    (m.adopt recorded).resources.map Resource.key = m.resources.map Resource.key := by
  show (m.resources.map (adoptOne recorded)).map Resource.key = _
  rw [List.map_map]
  exact List.map_congr_left fun r _ => key_adoptOne recorded r

theorem prepared_adopt (accepted : m.Accepted) (recorded : List Resource) :
    ∀ q ∈ (m.adopt recorded).resources, q.spec.Prepared := by
  intro q member
  obtain ⟨r, there, rfl⟩ := List.mem_map.mp member
  show (adoptOne recorded r).spec.Prepared
  obtain ⟨s, adopted, intent⟩ := adoptOne_intent recorded r
  rw [adopted]
  exact (accepted.prepared r there).of_intent intent

/-- The resources of an accepted manifest wait for their turns. -/
theorem pending_adopt {names : Kind × String → Prop} (accepted : m.Accepted)
    (unidentified : m.Unidentified) (distinct : (recorded.map Resource.key).Nodup)
    (named : ∀ r ∈ m.resources, names r.key) :
    Pending names recorded (m.adopt recorded).resources := by
  refine ⟨(map_key_adopt m recorded).symm ▸ accepted.distinct, fun q member => ?_⟩
  have prepared := prepared_adopt accepted recorded q member
  obtain ⟨r, there, rfl⟩ := List.mem_map.mp member
  refine ⟨prepared, ?_, adopted_adoptOne distinct (unidentified r there)⟩
  exact (key_adoptOne recorded r).symm ▸ named r there

end Manifest

/-! ## Coherent states -/

open RecordedState (currentVersion)

/-- What the state records and what it says is hosted are in accord, and it can be read back. -/
structure Coherent (astray : Kind × String → Prop) (used : Nat → Prop)
    (names : Kind × String → Prop) (s : RecordedState) : Prop where
  current : s.version = currentVersion
  hosts : ∃ p : Provider, s.provider = p.snapshot ∧ Accord astray s.resources p ∧
    Numbered used names p

variable {astray : Kind × String → Prop} {used : Nat → Prop} {names : Kind × String → Prop}
  {s : RecordedState} {m : Manifest} {now : Instant} {serial : Numbering} {cont : Bool}

namespace Coherent

theorem new (now : Instant) : Coherent astray used names (.new now) := by
  have nothing : ∀ k key, ((Provider.ofSnapshot 0 .empty).hosted k).get? key = none := fun _ _ => rfl
  refine ⟨rfl, .ofSnapshot 0 .empty, rfl, ⟨?_, ?_, List.nodup_nil, ?_, ?_⟩, ?_, ?_⟩
  · exact fun k key h there => nomatch (nothing k key).symm.trans there
  · exact fun {k key _ _ _} there => nomatch (nothing k key).symm.trans there
  · exact fun r member => absurd member List.not_mem_nil
  · exact fun {k key _} there => nomatch (nothing k key).symm.trans there
  · exact fun {k key _} there => nomatch (nothing k key).symm.trans there
  · exact fun {k key _} there => nomatch (nothing k key).symm.trans there

/-- The provider of a run hosts what the state says is hosted. -/
theorem provider (coherent : Coherent astray used names s) (serial : Numbering) :
    Accord astray s.resources (.ofSnapshot serial s.provider) ∧
      Numbered used names (.ofSnapshot serial s.provider) := by
  obtain ⟨-, p, snapshot, accord, numbered⟩ := coherent
  have same : ∀ k, (Provider.ofSnapshot serial s.provider).hosted k = p.hosted k := by
    rw [snapshot]
    exact fun k => Provider.hosted_ofSnapshot (accord.consistent k) serial
  exact ⟨accord.congr same, numbered.congr same⟩

/-- Nothing is lost when the provider of a run takes over what is hosted. -/
theorem snapshot_provider (coherent : Coherent astray used names s) (serial : Numbering) :
    (Provider.ofSnapshot serial s.provider).snapshot = s.provider := by
  obtain ⟨-, p, snapshot, accord, -⟩ := coherent
  rw [snapshot]
  exact Provider.snapshot_congr fun k => Provider.hosted_ofSnapshot (accord.consistent k) serial

theorem mono {astray' : Kind × String → Prop} {used' : Nat → Prop}
    {names' : Kind × String → Prop} (coherent : Coherent astray used names s)
    (more : ∀ key, astray key → astray' key) (later : ∀ n, used n → used' n)
    (wider : ∀ key, names key → names' key) : Coherent astray' used' names' s := by
  obtain ⟨current, p, snapshot, accord, numbered⟩ := coherent
  exact ⟨current, p, snapshot, accord.mono more,
    ⟨(numbered.mono later).keyed, fun there => wider _ (numbered.named there)⟩⟩

/-- What documents keep of a coherent state is coherent. -/
theorem kept (coherent : Coherent astray used names s) : Coherent astray used names s.kept := by
  obtain ⟨current, p, snapshot, accord, numbered⟩ := coherent
  have keys : s.kept.resources.map Resource.key = s.resources.map Resource.key := by
    show (s.resources.map Resource.kept).map Resource.key = _
    rw [List.map_map]
    rfl
  refine ⟨current, p, snapshot, ⟨accord.consistent, accord.named, ?_, ?_, ?_⟩, numbered⟩
  · rw [keys]
    exact accord.distinct
  · intro q member
    obtain ⟨r, there, rfl⟩ := List.mem_map.mp member
    exact accord.hosts r there
  · intro k key h there
    refine (accord.recorded there).imp (fun ⟨r, member, same, identifier⟩ => ?_) id
    exact ⟨r.kept, List.mem_map_of_mem member, same, identifier⟩

end Coherent

/-! ## Syncing -/

/-- The entry tells the identifier of what has this kind and name. -/
def ReportEntry.Identifies (e : ReportEntry) (key : Kind × String) : Prop :=
  e.key = key ∧ e.identifier ≠ ""

/-- The numbers for new identifiers that a run that syncs leaves. -/
def Manifest.nextSerial (m : Manifest) (s : RecordedState) (now : Instant) (serial : Numbering)
    (token : Token) (cont : Bool) : Numbering :=
  (m.syncOn s now serial token cont).world.provider.serial

theorem foldl_put_filter (qs rs : List Resource) :
    (qs.filter fun q => !q.identifier.isEmpty).foldl put rs = qs.foldl recordedFrom rs := by
  rw [List.foldl_filter]
  refine congrArg (fun f => qs.foldl f rs) (funext₂ fun rs q => ?_)
  unfold recordedFrom
  by_cases unknown : q.identifier = "" <;> simp [unknown]

theorem resources_sync (s : RecordedState) (now : Instant) (serial : Numbering) (token : Token)
    (cont : Bool) (m : Manifest) : (s.sync now serial token cont m).2.resources =
      (m.syncOn s now serial token cont).resources.foldl recordedFrom s.resources :=
  foldl_put_filter _ _

/-- Entries that name resources tell the identifiers that are known of these. -/
theorem identifies_iff_learnt {es : List ReportEntry} {qs : List Resource} {key : Kind × String}
    (told : List.Forall₂ ReportEntry.Names es qs) :
    (∃ e ∈ es, e.Identifies key) ↔ Learnt qs key := by
  induction told with
  | nil => simp [Learnt]
  | @cons e r es qs names _ inductionHypothesis =>
    have same : e.key = r.key := Prod.ext names.kind names.name
    have here : e.Identifies key ↔ r.key = key ∧ r.identifier ≠ "" := by
      rw [ReportEntry.Identifies, same, names.identifier]
    rw [learnt_cons_iff, ← here, ← inductionHypothesis]
    simp

/-- A run tells the identifiers that it has learnt. -/
theorem identifies_sync_iff (s : RecordedState) (now : Instant) (serial : Numbering) (token : Token)
    (cont : Bool) (m : Manifest) {key : Kind × String} :
    (∃ e ∈ (s.sync now serial token cont m).1.entries, e.Identifies key) ↔
      Learnt (m.syncOn s now serial token cont).resources key :=
  identifies_iff_learnt (told_runAll (syncOne_faithful ⟨m.snapshotStem, cont⟩ now)).2

namespace Coherent

variable (coherent : Coherent astray used names s) (accepted : m.Accepted)
  (unidentified : m.Unidentified) (named : ∀ r ∈ m.resources, names r.key)
include coherent accepted unidentified named

theorem pending : Pending names s.resources (m.adopt s.resources).resources := by
  obtain ⟨accord, -⟩ := coherent.provider 0
  exact Manifest.pending_adopt accepted unidentified accord.distinct named

/-- However far a run that syncs comes, it leaves a coherent state; what it has learnt of is astray no
longer. -/
theorem sync (now : Instant) (serial : Numbering) (token : Token) (cont : Bool)
    (fresh : Fresh used serial (m.nextSerial s now serial token cont))
    (natural : Natural (UsedWith used serial (m.nextSerial s now serial token cont)) names) :
    Coherent (fun key => astray key ∧
        ¬∃ e ∈ (s.sync now serial token cont m).1.entries, e.Identifies key)
      (UsedWith used serial (m.nextSerial s now serial token cont)) names
      (s.sync now serial token cont m).2 := by
  obtain ⟨accord, numbered⟩ := coherent.provider serial
  have pending := coherent.pending accepted unidentified named
  have advances : Advances _ _ (m.syncOn s now serial token cont).resources _ :=
    syncAll_advances ⟨m.snapshotStem, cont⟩ now (fun q member => (pending.each q member).1)
      accord.consistent (fun q member => accord.held (pending.each q member).2.2) token
  obtain ⟨accord', numbered'⟩ := advances.accord accord numbered pending fresh natural
  refine ⟨coherent.current, _, rfl, ?_, numbered'⟩
  rw [resources_sync]
  exact accord'.mono fun key gone => ⟨gone.1, mt (identifies_sync_iff ..).mp gone.2⟩

/-- A run that nothing cuts brings all resources of the manifest about. -/
theorem syncOn_brings (now : Instant) (serial : Numbering) (cont : Bool) :
    ∃ es qs p', Brings now (.ofSnapshot serial s.provider) (m.adopt s.resources).resources es qs p' ∧
      m.syncOn s now serial .live cont = ⟨qs, ⟨es, false⟩, ⟨p', .live⟩⟩ := by
  obtain ⟨accord, -⟩ := coherent.provider serial
  have pending := coherent.pending accepted unidentified named
  obtain ⟨es, qs, p', ran, brings⟩ := syncAll_brings ⟨m.snapshotStem, cont⟩ now
    (fun q member => (pending.each q member).1) accord.consistent
    (fun q member => accord.held (pending.each q member).2.2) (Provider.quiet_ofSnapshot _ _)
  exact ⟨es, qs, p', brings, ran⟩

/-- It tells the identifiers of all of them. -/
theorem sync_identifies (now : Instant) (serial : Numbering) (cont : Bool) :
    ∀ key ∈ m.resources.map Resource.key,
      ∃ e ∈ (s.sync now serial .live cont m).1.entries, e.Identifies key := by
  intro key member
  obtain ⟨accord, -⟩ := coherent.provider serial
  obtain ⟨es, qs, p', brings, ended⟩ :=
    coherent.syncOn_brings accepted unidentified named now serial cont
  have keys := (brings.advances accord.consistent).map_key
  rw [← Manifest.map_key_adopt m s.resources, ← keys] at member
  obtain ⟨q, member, own⟩ := List.mem_map.mp member
  rw [identifies_sync_iff, ended]
  exact ⟨q, member, own, brings.identifier_ne_empty accord.consistent q member⟩

/-! ## Deleting -/

/-- A run that deletes leaves a coherent state; what it gave up is astray. -/
theorem delete (now : Instant) (serial : Numbering) {token : Token} (answers : token.Answers)
    (cont : Bool) :
    Coherent (fun key => astray key ∨
        ∃ e ∈ (s.delete now serial token cont m).1.entries, e.GivesUp key)
      used names (s.delete now serial token cont m).2 := by
  obtain ⟨accord, numbered⟩ := coherent.provider serial
  have accorded : Accorded astray used names s.resources (m.deleteOn s now serial token cont) :=
    deleteAll_accorded ⟨m.snapshotStem, cont⟩ now accord numbered
      (coherent.pending accepted unidentified named) (Provider.quiet_ofSnapshot _ _) answers
  refine ⟨?_, _, rfl, ?_, accorded.numbered⟩
  · simp only [RecordedState.delete, RecordedState.ended, RecordedState.addHistory,
      version_foldl_release, coherent.current]
  · simp only [RecordedState.delete, RecordedState.ended, RecordedState.addHistory,
      resources_foldl_release]
    exact accorded.accord

end Coherent

end DesiredState
