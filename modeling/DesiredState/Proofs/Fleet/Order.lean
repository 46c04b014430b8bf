import DesiredState.Proofs.Fleet.Turns
import DesiredState.Proofs.Reconcile.Locality

/-!
# The order of a run

Resources that find different hosted resources are brought about independently of each other: each
of them is dealt with as if it were alone, also if others fail.  So the order of a run that goes on
after failures decides nothing but the order of its report.

Contents:

* `Provider.Touched`, `Turn.LikeAlone`, `syncOne_likeAlone` — one turn among others.
* `Apart`, `syncAll_apart` — a whole run.
* `syncAll_perm` — the main result.
-/

namespace DesiredState

variable {k : Kind} {α : Type}

/-! ## One turn -/

/-- The resource without the time of its last sync. -/
def Resource.untimed (r : Resource) : Resource := ⟨r.kind, r.spec.untimed⟩

/-- At most one hosted resource of one kind was changed, and not its title. -/
structure Provider.Touched (p : Provider) (k : Kind) (key : String) (p' : Provider) : Prop where
  quiet : p'.Quiet
  tended : Tended key (p.hosted k) (p'.hosted k)
  others : ∀ k', k' ≠ k → p'.hosted k' = p.hosted k'

namespace Provider.Touched

variable {p p' : Provider} {key : String}

theorem titles (touched : p.Touched k key p') (k' : Kind) (key' : String) :
    titleAt (p'.hosted k') key' = titleAt (p.hosted k') key' := by
  by_cases same : k' = k
  · subst same
    exact touched.tended.titles key'
  · rw [touched.others k' same]

theorem get?_of_ne (touched : p.Touched k key p') {k' : Kind} {key' : String}
    (apart : (k', key') ≠ (k, key)) : (p'.hosted k').get? key' = (p.hosted k').get? key' := by
  by_cases same : k' = k
  · subst same
    exact touched.tended.others key' fun own => apart (by rw [own])
  · rw [touched.others k' same]

end Provider.Touched

/-- A turn goes as the one on another provider, and touches nothing but what its resource finds. -/
structure Turn.LikeAlone (r : Resource) (key : String) (p : Provider) (alone t : Turn) : Prop where
  entry : t.entry = alone.entry
  resource : t.resource.untimed = alone.resource.untimed
  there : (t.world.provider.hosted r.kind).get? key = (alone.world.provider.hosted r.kind).get? key
  touched : p.Touched r.kind key t.world.provider
  token : t.world.token = .live
  heeded : t.isCancelled = false

theorem Provider.touched {p : Provider} {key : String} {s : Spec k}
    {y : Session k (Simulator k)} (quiet : p.Quiet)
    (tends : Tends key ⟨s, p.simulator k, .live⟩ y) :
    p.Touched k key (p.withSimulator y.world) where
  quiet := p.quiet_withSimulator quiet tends.spent
  tended := by
    rw [hosted_withSimulator]
    exact tends.tended
  others k' other := p.hosted_withSimulator_of_ne _ other

variable {settings settings' : RunSettings} {now now' : Instant} {p p' : Provider} {r : Resource}

theorem syncOne_likeAlone (settings settings' : RunSettings) (now now' : Instant) {key : String}
    (quiet : p.Quiet) (quiet' : p'.Quiet) (consistent : Consistent (p.hosted r.kind))
    (accepted : r.spec.prepare.2 = .ok ())
    (sought : r.spec.prepare.1.sought? (p.hosted r.kind) = some key)
    (titles : ∀ key', titleAt (p'.hosted r.kind) key' = titleAt (p.hosted r.kind) key')
    (there : (p'.hosted r.kind).get? key = (p.hosted r.kind).get? key) :
    Turn.LikeAlone r key p' (syncOne settings now r ⟨p, .live⟩)
      (syncOne settings' now' r ⟨p', .live⟩) := by
  have beside : Beside key ⟨r.spec, p.simulator r.kind, .live⟩
      ⟨r.spec, p'.simulator r.kind, .live⟩ :=
    ⟨rfl, rfl, funext fun op => (quiet' r.kind op).trans (quiet r.kind op).symm, titles, there⟩
  have sought' : r.spec.prepare.1.sought? (p'.hosted r.kind) = some key :=
    (Spec.sought?_congr titles).trans sought
  -- The two runs are compared both ways round, since each way says what only one of them touches.
  obtain ⟨answer, y, y', ran, ran', attended⟩ :=
    Run.Agrees.sync settings settings' now now' now now' beside consistent accepted sought
  obtain ⟨_, _, _, ran'', -, attended'⟩ :=
    Run.Agrees.sync settings' settings now' now now' now beside.symm (consistent.of_titles titles)
      accepted sought'
  obtain ⟨rfl, rfl⟩ := Prod.mk.inj (ran'.symm.trans ran'')
  have resource : y'.spec.untimed = y.spec.untimed := attended.spec
  have there' : ((p'.withSimulator y'.world).hosted r.kind).get? key =
      ((p.withSimulator y.world).hosted r.kind).get? key := by
    rw [Provider.hosted_withSimulator, Provider.hosted_withSimulator]
    exact attended.there
  have touched : p'.Touched r.kind key (p'.withSimulator y'.world) :=
    Provider.touched quiet' attended'.tends
  have token : y'.token = .live := attended'.tends.live rfl
  unfold syncOne workOn
  simp only [ran, ran']
  cases answer with
  | ok o =>
    refine ⟨?_, congrArg (Resource.mk r.kind) resource, there', touched, token, rfl⟩
    show ReportEntry.synced y'.spec.untimed o = .synced y.spec.untimed o
    rw [resource]
  | error f =>
    refine ⟨?_, congrArg (Resource.mk r.kind) resource, there', touched, token, ?_⟩
    · show ReportEntry.failed ⟨r.kind, y'.spec.untimed⟩ f.message =
        .failed ⟨r.kind, y.spec.untimed⟩ f.message
      rw [resource]
    · exact attended'.heeded rfl f rfl

/-! ## All turns -/

/-- Once other resources were touched, the turn of a resource still goes as if it were alone. -/
def GoesAlone (work : Resource → World → Turn) (alone : Resource → Turn) (p : Provider)
    (r : Resource) : Prop :=
  ∀ key p', r.target? p = some (r.kind, key) → p'.Quiet →
    (∀ k key', titleAt (p'.hosted k) key' = titleAt (p.hosted k) key') →
    (p'.hosted r.kind).get? key = (p.hosted r.kind).get? key →
    Turn.LikeAlone r key p' (alone r) (work r ⟨p', .live⟩)

/-- What a run leaves of the hosted resources that it finds, and of all others. -/
structure Apart (alone : Resource → Turn) (p : Provider) (rs : List Resource) (p' p'' : Provider) :
    Prop where
  own : ∀ r ∈ rs, ∀ key, r.target? p = some (r.kind, key) →
    (p''.hosted r.kind).get? key = ((alone r).world.provider.hosted r.kind).get? key
  others : ∀ k key, (∀ r ∈ rs, r.target? p ≠ some (k, key)) →
    (p''.hosted k).get? key = (p'.hosted k).get? key

/-- A run that goes on after failures deals with each resource as if it were alone. -/
theorem runAll_apart {work : Resource → World → Turn} {alone : Resource → Turn} {rs : List Resource}
    (goes : ∀ r ∈ rs, GoesAlone work alone p r) (found : ∀ r ∈ rs, (r.target? p).isSome = true)
    (distinct : (rs.map (·.target? p)).Nodup) (quiet' : p'.Quiet)
    (titles : ∀ k key, titleAt (p'.hosted k) key = titleAt (p.hosted k) key)
    (there : ∀ r ∈ rs, ∀ key, r.target? p = some (r.kind, key) →
      (p'.hosted r.kind).get? key = (p.hosted r.kind).get? key) :
    ∃ rs' p'', runAll work true rs ⟨p', .live⟩ =
        ⟨rs', ⟨rs.map fun r => (alone r).entry, false⟩, ⟨p'', .live⟩⟩ ∧
      rs'.map Resource.untimed = rs.map (fun r => (alone r).resource.untimed) ∧
      Apart alone p rs p' p'' := by
  induction rs generalizing p' with
  | nil =>
    exact ⟨[], p', rfl, rfl, fun _ member => absurd member List.not_mem_nil, fun _ _ _ => rfl⟩
  | cons r rs inductionHypothesis =>
    obtain ⟨apart, distinct⟩ := List.nodup_cons.mp distinct
    obtain ⟨⟨k, key⟩, target⟩ := Option.isSome_iff_exists.mp (found r List.mem_cons_self)
    obtain ⟨rfl, -⟩ := Resource.sought?_of_target? target
    have elsewhere : ∀ q ∈ rs, q.target? p ≠ some (r.kind, key) := fun q member same =>
      apart (List.mem_map.mpr ⟨q, member, same.trans target.symm⟩)
    have turn := goes r List.mem_cons_self key p' target quiet' titles
      (there r List.mem_cons_self key target)
    obtain ⟨entry, resource, own, touched, token, heeded⟩ := turn
    obtain ⟨rs', p'', ran, resources, rest⟩ := inductionHypothesis
      (fun q member => goes q (List.mem_cons_of_mem r member))
      (fun q member => found q (List.mem_cons_of_mem r member)) distinct touched.quiet
      (fun k key => (touched.titles k key).trans (titles k key)) fun q member key' target' => by
        rw [touched.get?_of_ne fun same => elsewhere q member (target'.trans (congrArg some same))]
        exact there q (List.mem_cons_of_mem r member) key' target'
    refine ⟨(work r ⟨p', .live⟩).resource :: rs', p'', ?_, ?_, ?_, ?_⟩
    · have unhalted : (work r ⟨p', .live⟩).halts true = false := by simp [Turn.halts, heeded]
      have world : (work r ⟨p', .live⟩).world = ⟨(work r ⟨p', .live⟩).world.provider, .live⟩ :=
        congrArg (World.mk _) token
      rw [runAll_of_unhalted unhalted, world, ran, RunResult.after, entry, List.map_cons]
    · rw [List.map_cons, List.map_cons, resource, resources]
    · intro q member key' target'
      rcases List.mem_cons.mp member with rfl | member
      · obtain rfl : key' = key := by
          rw [target] at target'
          exact (congrArg Prod.snd (Option.some.inj target')).symm
        exact (rest.others q.kind key' elsewhere).trans own
      · exact rest.own q member key' target'
    · intro k' key' none
      rw [rest.others k' key' fun q member => none q (List.mem_cons_of_mem r member)]
      refine touched.get?_of_ne fun same => none r List.mem_cons_self ?_
      rw [target, same]

/-! ## The main result -/

/-- Of two runs over the same resources in different order each comes to the same. -/
theorem Apart.hosted_eq {alone : Resource → Turn} {rs qs : List Resource} {p' p'' : Provider}
    (perm : qs.Perm rs) (first : Apart alone p rs p p') (second : Apart alone p qs p p'')
    (k : Kind) : p''.hosted k = p'.hosted k := by
  refine Dict.ext_get? fun key => ?_
  by_cases reached : ∃ r ∈ rs, r.target? p = some (k, key)
  · obtain ⟨r, member, target⟩ := reached
    obtain ⟨rfl, -⟩ := Resource.sought?_of_target? target
    rw [first.own r member key target, second.own r (perm.mem_iff.mpr member) key target]
  · simp only [not_exists, not_and] at reached
    rw [first.others k key reached, second.others k key fun r member =>
      reached r (perm.mem_iff.mp member)]

/-- Resources that find different hosted resources can be brought about in any order, also if some
of them fail: each one is reported and left alike, and so is all that is hosted. -/
theorem syncAll_perm (stem stem' : String) (now now' : Instant) {rs qs : List Resource}
    (consistent : ∀ k, Consistent (p.hosted k)) (quiet : p.Quiet)
    (accepted : ∀ r ∈ rs, r.prepare.2 = .ok ()) (found : ∀ r ∈ rs, (r.target? p).isSome = true)
    (distinct : (rs.map (·.target? p)).Nodup) (perm : qs.Perm rs) :
    ∃ entry : Resource → ReportEntry, ∃ left : Resource → Resource,
      let first := syncAll ⟨stem, true⟩ now rs ⟨p, .live⟩
      let second := syncAll ⟨stem', true⟩ now' qs ⟨p, .live⟩
      (∀ k, second.world.provider.hosted k = first.world.provider.hosted k) ∧
        first.report = ⟨rs.map entry, false⟩ ∧ second.report = ⟨qs.map entry, false⟩ ∧
        first.resources.map Resource.untimed = rs.map left ∧
        second.resources.map Resource.untimed = qs.map left := by
  let alone : Resource → Turn := fun r => syncOne ⟨stem, true⟩ now r ⟨p, .live⟩
  have goes (settings : RunSettings) (now' : Instant) :
      ∀ r ∈ rs, GoesAlone (syncOne settings now') alone p r := by
    intro r member key p' target quiet' titles there
    exact syncOne_likeAlone ⟨stem, true⟩ settings now now' quiet quiet' (consistent r.kind)
      (accepted r member) (Resource.sought?_of_target? target).2 (titles r.kind) there
  generalize alone = alone at goes
  obtain ⟨left, p', ran, resources, first⟩ := runAll_apart (goes ⟨stem, true⟩ now) found distinct
    quiet (fun _ _ => rfl) fun _ _ _ _ => rfl
  obtain ⟨left', p'', ran', resources', second⟩ := runAll_apart
    (fun r member => goes ⟨stem', true⟩ now' r (perm.mem_iff.mp member))
    (fun r member => found r (perm.mem_iff.mp member)) ((perm.map _).nodup_iff.mpr distinct) quiet
    (fun _ _ => rfl) fun _ _ _ _ => rfl
  refine ⟨fun r => (alone r).entry, fun r => (alone r).resource.untimed, ?_⟩
  unfold syncAll
  rw [ran, ran']
  exact ⟨first.hosted_eq perm second, rfl, rfl, resources, resources'⟩

namespace Sample

/-- A second hosted key. -/
def spare : HostedOf .cryptoKey := { key with identifier := "key-1", name := "alias/spare" }

/-- Two keys are hosted, and nothing else. -/
def pair : Provider where
  serial := 2
  host
    | .cryptoKey =>
      ⟨(Dict.empty.insert key.identifier key).insert spare.identifier spare, [], fun _ => none⟩
    | _ => default

theorem consistent_pair (k : Kind) : Consistent (pair.hosted k) := by
  cases k with
  | cryptoKey =>
    exact (Consistent.empty.insert (h := key) (by decide)).insert (h := spare) (by decide)
  | _ => exact .empty

theorem quiet_pair : pair.Quiet := by
  intro k op
  cases k <;> rfl

/-- The first key, known by its name, and the second one, with its name for an identifier. -/
def asked : List Resource :=
  [⟨.cryptoKey, spec⟩,
    ⟨.cryptoKey, { spec with shared := { Meta.empty with identifier := "alias/spare" } }⟩]

end Sample

/-- The second key cannot be changed under its name, whether it comes first or last. -/
theorem syncAll_perm_pair :
    Sample.asked.map (·.target? Sample.pair) =
        [some (.cryptoKey, "key-0"), some (.cryptoKey, "key-1")] ∧
      ∃ entry : Resource → ReportEntry,
        (syncAll ⟨"final", true⟩ .epoch Sample.asked ⟨Sample.pair, .live⟩).report =
            ⟨Sample.asked.map entry, false⟩ ∧
          (syncAll ⟨"final", true⟩ .epoch Sample.asked.reverse ⟨Sample.pair, .live⟩).report =
            ⟨Sample.asked.reverse.map entry, false⟩ ∧
          (Sample.asked.map entry).map ReportEntry.status = [.updated, .failed] := by
  have targets : Sample.asked.map (·.target? Sample.pair) =
      [some (.cryptoKey, "key-0"), some (.cryptoKey, "key-1")] := by decide
  obtain ⟨entry, left, -, first, second, -, -⟩ := syncAll_perm "final" "final" .epoch .epoch
    Sample.consistent_pair Sample.quiet_pair (by decide) (by decide) (by rw [targets]; decide)
    (List.reverse_perm Sample.asked)
  refine ⟨targets, entry, first, second, ?_⟩
  have statuses : (syncAll ⟨"final", true⟩ .epoch Sample.asked
      ⟨Sample.pair, .live⟩).report.entries.map ReportEntry.status = [.updated, .failed] := by decide
  rwa [first] at statuses

end DesiredState
