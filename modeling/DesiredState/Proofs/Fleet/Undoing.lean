import DesiredState.Proofs.Fleet.Order
import DesiredState.Proofs.Reconcile.Disposal
import DesiredState.Proofs.Reconcile.Footprint

/-!
# Undoing a run

Resources that nothing is hosted of yet are brought about by additions: what a later one of them
finds is what an earlier one has added, and everything else is left alone.  So what a run has added
is a stack, and deleting the resources again, the last one first, takes it down to the ground.

Contents:

* `Added` — what is hosted of a kind after additions, and how a sync adds to it.
* `Provider.Grown` — a provider to which resources were added, all of which can be removed.
* `syncOne_grows`, `runAll_grown` — bringing resources about.
* `deleteOne_grown`, `runAll_deleteOne_grown` — removing them again.
* `deleteAll_syncAll` — the main result.
-/

namespace DesiredState

variable {k : Kind}

/-! ## Additions -/

/-- What is hosted, except under some keys, was hosted before; under these nothing was. -/
structure Added (own : String → Prop) (hosted hosted' : Dict (HostedOf k)) : Prop where
  consistent : Consistent hosted'
  known : ∀ key, own key → key ≠ ""
  vacant : ∀ key, own key → hosted.get? key = none
  others : ∀ key, ¬own key → hosted'.get? key = hosted.get? key

namespace Added

variable {own own' : String → Prop} {hosted hosted' : Dict (HostedOf k)} {text key : String}

/-- What is found now, and was not found before, was added. -/
theorem own_of_find? (added : Added own hosted hosted') (missing : Host.find? hosted text = none)
    (found : Host.find? hosted' text = some key) : own key := by
  -- Under any other key the same stood before, and would have been found then.
  by_contra other
  obtain ⟨absent, unnamed⟩ := Host.find?_eq_none_iff.mp missing
  obtain ⟨h, there, key_eq⟩ := Host.of_find? added.consistent found
  rw [added.others key other] at there
  rcases key_eq with rfl | ⟨-, named⟩
  · rw [Dict.contains_eq_false_iff, there] at absent
    cases absent
  · exact unnamed h (Dict.mem_values_iff.mpr ⟨key, there⟩) named

theorem own_of_sought? {s : Spec k} (added : Added own hosted hosted')
    (missing : s.sought? hosted = none) (sought : s.sought? hosted' = some key) : own key := by
  obtain ⟨unheld, free⟩ := Option.or_eq_none_iff.mp missing
  rcases Option.or_eq_some_iff.mp sought with held | ⟨-, named⟩
  · split at held
    · cases held
    next known =>
      rw [if_neg known] at unheld
      exact added.own_of_find? unheld held
  · exact added.own_of_find? free named

theorem tended (added : Added own hosted hosted') (member : own key) {hosted'' : Dict (HostedOf k)}
    (tended : Tended key hosted' hosted'') : Added own hosted hosted'' where
  consistent := added.consistent.of_titles tended.titles
  known := added.known
  vacant := added.vacant
  others key' other :=
    (tended.others key' fun same => other (same ▸ member)).trans (added.others key' other)

/-- More keys may count as added, if nothing stands or stood under them. -/
theorem widen (added : Added own hosted hosted') (wider : ∀ key, own key → own' key)
    (known : ∀ key, own' key → key ≠ "")
    (vacant : ∀ key, own' key → hosted.get? key = none) : Added own' hosted hosted' where
  consistent := added.consistent
  known := known
  vacant := vacant
  others key other := added.others key fun member => other (wider key member)

/-- What leads to an added resource did not lead to anything before. -/
theorem vacant_of_find? (added : Added own hosted hosted') (member : own key)
    (found : Host.find? hosted' text = some key) : hosted.get? text = none := by
  by_cases held : own text
  · exact added.vacant text held
  · cases there : hosted.get? text with
    | none => rfl
    | some h =>
      rw [← added.others text held] at there
      rw [Host.find?_of_contains (Dict.contains_iff.mpr ⟨h, there⟩)] at found
      exact absurd (Option.some.inj found ▸ member) held

/-- A sync that would have found nothing before adds the resource that it ends with. -/
theorem mark {s : Spec k} {w : Simulator k} {o : SyncOutcome k} {y : Session k (Simulator k)}
    (added : Added own hosted w.hosted) (missing : s.sought? hosted = none)
    (marks : Marks s w (.ok o) y)
    (fresh : o.action = .created ∨ o.action = .recreated → hosted.get? y.spec.identifier = none) :
    Added (fun key => own key ∨ key = y.spec.identifier) hosted y.world.hosted := by
  cases marks with
  | idle failed => exact nomatch failed
  | @tended key sought tended _ aims =>
    obtain ⟨known, found⟩ := aims o rfl
    have member := added.own_of_sought? missing sought
    have added' := added.tended member tended
    -- The specification may know the resource by its name.  Then that name counts as a key that was
    -- added as well: nothing stood under it before, or the name would lead there.
    refine added'.widen (fun _ => .inl) ?_ ?_
    · rintro key' (held | rfl)
      · exact added.known key' held
      · exact known
    · rintro key' (held | rfl)
      · exact added.vacant key' held
      · exact added'.vacant_of_find? member found
  | created _ created told =>
    refine ⟨created.consistent added.consistent, ?_, ?_, ?_⟩
    · rintro key (held | rfl)
      · exact added.known key held
      · exact created.aims.known
    · rintro key (held | rfl)
      · exact added.vacant key held
      · exact fresh (told o rfl)
    · intro key other
      obtain ⟨unheld, apart⟩ := not_or.mp other
      rw [created.others key (created.identifier ▸ apart), added.others key unheld]

/-- Erasing an added resource takes it out of what was added. -/
theorem erase (added : Added (fun key => own key ∨ key = text) hosted hosted') :
    Added own hosted (hosted'.erase text) where
  consistent key h there := by
    rw [Dict.get?_erase] at there
    split at there
    · cases there
    · exact added.consistent key h there
  known key held := added.known key (.inl held)
  vacant key held := added.vacant key (.inl held)
  others key other := by
    rw [Dict.get?_erase]
    split
    next same => exact (added.vacant key (.inr same)).symm
    next apart => exact added.others key (not_or.mpr ⟨other, apart⟩)

end Added

/-! ## Policies -/

theorem DeletionPolicy.parse?_label (policy : DeletionPolicy) :
    parse? policy.label = some policy := by
  cases policy <;> decide

namespace Spec

variable {s t : Spec k}

/-- Completion declares the policy that holds anyway. -/
theorem effectivePolicy_complete (s : Spec k) : s.complete.effectivePolicy = s.effectivePolicy := by
  cases declared : s.shared.deletionPolicy with
  | none =>
    simp [effectivePolicy, complete, declarePolicy, normalize, declared,
      DeletionPolicy.parse?_label, k.defaultPolicy_mem]
  | some text => simp [effectivePolicy, complete, declarePolicy, normalize, declared]

theorem isDeletable_eq_of_intent (same : s.intent = t.intent) : s.isDeletable = t.isDeletable := by
  rw [isDeletable, isDeletable, effectivePolicy, effectivePolicy, deletionPolicy_eq_of_intent same]

theorem isDeletable_of_prepared (same : s.intent = t.prepare.1.intent) :
    s.isDeletable = t.isDeletable := by
  rw [isDeletable_eq_of_intent same]
  simp only [isDeletable, prepare, effectivePolicy_complete]

end Spec

/-! ## Providers -/

/-- One of the resources is known under this identifier. -/
def Leads (rs : List Resource) (k : Kind) (key : String) : Prop :=
  ∃ r ∈ rs, r.kind = k ∧ r.identifier = key

theorem not_leads_nil (k : Kind) (key : String) : ¬Leads [] k key :=
  fun leads => List.not_mem_nil leads.choose_spec.1

theorem leads_cons_self (r : Resource) (rs : List Resource) :
    Leads (r :: rs) r.kind = fun key => Leads rs r.kind key ∨ key = r.identifier := by
  funext key
  simp [Leads, eq_comm, or_comm]

theorem leads_cons_of_ne (r : Resource) (rs : List Resource) (other : k ≠ r.kind) :
    Leads (r :: rs) k = Leads rs k := by
  funext key
  simp [Leads, other.symm]

/-- To a provider were added the resources that these lead to, and nothing else was changed.  All of
them can be removed, and no request will be refused. -/
structure Provider.Grown (p : Provider) (rs : List Resource) (p' : Provider) : Prop where
  quiet : p'.Quiet
  added : ∀ k, Added (Leads rs k) (p.hosted k) (p'.hosted k)
  removable : ∀ r ∈ rs, r.spec.isDeletable = true

namespace Provider.Grown

variable {p p' p'' : Provider} {r : Resource} {rs : List Resource}

theorem refl (consistent : ∀ k, Consistent (p.hosted k)) (quiet : p.Quiet) : p.Grown [] p where
  quiet := quiet
  added k := ⟨consistent k, fun key leads => absurd leads (not_leads_nil k key),
    fun key leads => absurd leads (not_leads_nil k key), fun _ _ => rfl⟩
  removable _ member := absurd member List.not_mem_nil

theorem known (grown : p.Grown (r :: rs) p') : r.identifier ≠ "" :=
  (grown.added r.kind).known r.identifier ⟨r, List.mem_cons_self, rfl, rfl⟩

theorem hosted_eq (grown : p.Grown [] p') (k : Kind) : p'.hosted k = p.hosted k :=
  Dict.ext_get? fun key => (grown.added k).others key (not_leads_nil k key)

/-- A sync that would have found nothing before adds what it ends with. -/
theorem sync (grown : p.Grown rs p') (missing : r.target? p = none)
    (removable : r.spec.isDeletable = true) {o : SyncOutcome r.kind}
    {y : Session r.kind (Simulator r.kind)} (intent : y.spec.intent = r.spec.prepare.1.intent)
    (marks : Marks r.spec.prepare.1 (p'.simulator r.kind) (.ok o) y)
    (spent : Spent (p'.simulator r.kind) y.world)
    (new : o.action = .created ∨ o.action = .recreated →
      (p.hosted r.kind).contains y.spec.identifier = false) :
    p.Grown (⟨r.kind, y.spec⟩ :: rs) (p'.withSimulator y.world) where
  quiet := p'.quiet_withSimulator grown.quiet spent
  added k := by
    by_cases same : k = r.kind
    · subst same
      rw [leads_cons_self, hosted_withSimulator]
      exact (grown.added r.kind).mark (Option.map_eq_none_iff.mp missing) marks fun created =>
        Dict.contains_eq_false_iff.mp (new created)
    · rw [leads_cons_of_ne ⟨r.kind, y.spec⟩ rs same, p'.hosted_withSimulator_of_ne y.world same]
      exact grown.added k
  removable := by
    refine List.forall_mem_cons.mpr ⟨?_, grown.removable⟩
    exact (Spec.isDeletable_of_prepared intent).trans removable

/-- Erasing what the first one leads to leaves what the others lead to. -/
theorem erase (grown : p.Grown (r :: rs) p') {serial : Numbering}
    (moved : p'.Moved r.kind ((p'.hosted r.kind).erase r.identifier) serial p'') :
    p.Grown rs p'' where
  quiet := moved.quiet
  added k := by
    have added := grown.added k
    by_cases same : k = r.kind
    · subst same
      rw [leads_cons_self] at added
      rw [moved.hosted]
      exact added.erase
    · rw [leads_cons_of_ne _ _ same] at added
      rw [moved.others k same]
      exact added
  removable q member := grown.removable q (List.mem_cons_of_mem r member)

end Provider.Grown

variable {p p' : Provider} {r : Resource} {rs : List Resource} {settings : RunSettings}
  {now : Instant} {w : World}

/-! ## Bringing about -/

/-- What is reported as created was not hosted before. -/
def ReportEntry.New (p : Provider) (e : ReportEntry) : Prop :=
  e.status = .created ∨ e.status = .recreated → (p.hosted e.kind).contains e.identifier = false

instance (p : Provider) (e : ReportEntry) : Decidable (e.New p) :=
  inferInstanceAs (Decidable (_ → _))

/-- A turn that is not reported as failed puts its resource on top of what was added. -/
def Grows (work : Resource → World → Turn) (p : Provider) (r : Resource) : Prop :=
  ∀ rs w, p.Grown rs w.provider → (work r w).entry.status ≠ .failed → (work r w).entry.New p →
    (work r w).failure = none ∧ p.Grown ((work r w).resource :: rs) (work r w).world.provider

theorem syncOne_grows (settings : RunSettings) (now : Instant) (missing : r.target? p = none)
    (removable : r.spec.isDeletable = true) : Grows (syncOne settings now) p r := by
  intro rs w grown done new
  unfold syncOne at *
  rcases workOn_cases r w ((settings.engine now r.kind).sync now) ReportEntry.synced with
    ⟨o, y, ran, turned⟩ | failed
  · rw [turned] at new ⊢
    have marks := (Run.Yields.sync_marks (w := w.provider.simulator r.kind) settings now now r.spec
      (grown.added r.kind).consistent w.token).ends
    have spent := (sync_spent settings now now
      ⟨r.spec, w.provider.simulator r.kind, w.token⟩).ends
    rw [ran] at marks spent
    refine ⟨rfl, grown.sync missing removable marks.1 marks.2 spent fun created => new ?_⟩
    exact created.imp (congrArg Status.ofSync) (congrArg Status.ofSync)
  · exact absurd failed done

/-- A run that succeeds puts one resource after the other on top of what was added. -/
theorem runAll_grown {work : Resource → World → Turn} {cont : Bool} {done : List Resource}
    (grows : ∀ r ∈ rs, Grows work p r) (grown : p.Grown done w.provider)
    (success : (runAll work cont rs w).report.isSuccess = true)
    (new : ∀ e ∈ (runAll work cont rs w).report.entries, e.New p) :
    p.Grown ((runAll work cont rs w).resources.reverse ++ done)
      (runAll work cont rs w).world.provider := by
  -- What the run still has to do becomes shorter, while the stack of what it has done grows.
  induction rs generalizing w done with
  | nil => exact grown
  | cons r rs inductionHypothesis =>
    have reported := entry_mem_runAll work cont r rs w
    obtain ⟨unfailed, grown'⟩ := grows r List.mem_cons_self done w grown
      ((Report.isSuccess_iff.mp success).2 _ reported) (new _ reported)
    rw [runAll_of_unhalted (by simp [Turn.halts, unfailed])] at success new ⊢
    obtain ⟨uncancelled, statuses⟩ := Report.isSuccess_iff.mp success
    have rest := inductionHypothesis (fun q member => grows q (List.mem_cons_of_mem r member))
      grown' (Report.isSuccess_iff.mpr ⟨uncancelled, (List.forall_mem_cons.mp statuses).2⟩)
      (List.forall_mem_cons.mp new).2
    rwa [RunResult.after, List.reverse_cons, List.append_assoc]

/-! ## Removing again -/

/-- A resource that was added is removed, and reported so. -/
theorem deleteOne_grown (settings : RunSettings) (now : Instant) (grown : p.Grown (r :: rs) p') :
    ∃ e p'', deleteOne settings now r ⟨p', .live⟩ = ⟨r, e, none, ⟨p'', .live⟩⟩ ∧
      (e.kind, e.name, e.identifier, e.status) = (r.kind, r.name, r.identifier, .deleted) ∧
      p.Grown rs p'' := by
  obtain ⟨action, intended, removes⟩ :=
    ((settings.engine now r.kind).removes_iff_isDeletable grown.known).mpr
      (grown.removable r List.mem_cons_self)
  obtain ⟨policy, effective, resolved⟩ := Engine.policy_of_intended intended
  have stops : action = .stop → ∃ h h', (p'.hosted r.kind).get? r.identifier = some h ∧
      Hosted.stop h = some h' := by
    rintro rfl
    rcases removes with stop | ⟨id, stop⟩ <;> cases stop
  obtain ⟨p'', turned, dropped⟩ :=
    deleteOne_performs settings now effective resolved stops grown.quiet
  have moved := dropped.moved
  refine ⟨_, p'', turned, ?_, ?_⟩
  · rcases removes with rfl | ⟨id, rfl⟩ <;> rfl
  · rcases removes with rfl | ⟨id, rfl⟩ <;> exact grown.erase moved

/-- A run that removes what was added takes it down to the ground. -/
theorem runAll_deleteOne_grown (settings : RunSettings) (now : Instant) (grown : p.Grown rs p') :
    ∃ es p'', runAll (deleteOne settings now) settings.continueOnError rs ⟨p', .live⟩ =
        ⟨rs, ⟨es, false⟩, ⟨p'', .live⟩⟩ ∧
      es.map (fun e => (e.kind, e.name, e.identifier, e.status)) =
        rs.map (fun r => (r.kind, r.name, r.identifier, .deleted)) ∧
      p.Grown [] p'' := by
  induction rs generalizing p' with
  | nil => exact ⟨[], p', rfl, rfl, grown⟩
  | cons r rs inductionHypothesis =>
    obtain ⟨e, q, turned, told, grown'⟩ := deleteOne_grown settings now grown
    obtain ⟨es, p'', ran, tells, ground⟩ := inductionHypothesis grown'
    refine ⟨e :: es, p'', ?_, ?_, ground⟩
    · rw [runAll_cons turned, ran]
      rfl
    · rw [List.map_cons, List.map_cons, told, tells]

/-! ## The main result -/

/-- Once a run has brought about resources of which nothing was hosted, and all of which can be
removed, deleting them leaves the provider as it was before, whatever one of them had to do with
another. -/
theorem deleteAll_syncAll (settings settings' : RunSettings) (now now' : Instant) (token : Token)
    (consistent : ∀ k, Consistent (p.hosted k)) (quiet : p.Quiet)
    (missing : ∀ r ∈ rs, r.target? p = none) (removable : ∀ r ∈ rs, r.spec.isDeletable = true)
    (success : (syncAll settings now rs ⟨p, token⟩).report.isSuccess = true)
    (new : ∀ e ∈ (syncAll settings now rs ⟨p, token⟩).report.entries, e.New p) :
    let result := syncAll settings now rs ⟨p, token⟩
    let deletion := deleteAll settings' now' result.resources ⟨result.world.provider, .live⟩
    deletion.report.isSuccess = true ∧
      deletion.report.entries.map (fun e => (e.kind, e.name, e.identifier, e.status)) =
        result.resources.reverse.map (fun r => (r.kind, r.name, r.identifier, .deleted)) ∧
      ∀ k, deletion.world.provider.hosted k = p.hosted k := by
  intro result deletion
  have grown : p.Grown (result.resources.reverse ++ []) result.world.provider :=
    runAll_grown (fun r member =>
      syncOne_grows settings now (missing r member) (removable r member))
      (.refl consistent quiet) success new
  rw [List.append_nil] at grown
  obtain ⟨es, p', ran, tells, ground⟩ := runAll_deleteOne_grown settings' now' grown
  have ran : deletion = _ := ran
  rw [ran]
  refine ⟨Report.isSuccess_iff.mpr ⟨rfl, fun e member => ?_⟩, tells, ground.hosted_eq⟩
  have told : (e.kind, e.name, e.identifier, e.status) ∈ _ := tells ▸ List.mem_map_of_mem member
  obtain ⟨r, -, same⟩ := List.mem_map.mp told
  have status : .deleted = e.status := congrArg (·.2.2.2) same
  rw [← status]
  nofun

namespace Sample

/-- A new key, and once more the same one, with its name for an identifier. -/
def additions : List Resource :=
  let new (identifier : String) : Resource := ⟨.cryptoKey, { spec with
    name := "alias/new"
    shared := { Meta.empty with identifier := identifier, deletionPolicy := some "Delete" } }⟩
  [new "", new "alias/new"]

end Sample

/-- The second one adds nothing to what the first one has added, and there is nothing of it to be
removed; both are reported as deleted. -/
theorem deleteAll_syncAll_additions :
    let result := syncAll {} .epoch Sample.additions ⟨Sample.pair, .live⟩
    let deletion := deleteAll {} .epoch result.resources ⟨result.world.provider, .live⟩
    result.report.entries.map (fun e => (e.identifier, e.status)) =
        [("key-000000000002", .created), ("alias/new", .unchanged)] ∧
      deletion.report.isSuccess = true ∧
      ∀ k, deletion.world.provider.hosted k = Sample.pair.hosted k := by
  have missing : ∀ r ∈ Sample.additions, r.target? Sample.pair = none := by decide
  have removable : ∀ r ∈ Sample.additions, r.spec.isDeletable = true := by decide
  obtain ⟨success, -, undone⟩ := deleteAll_syncAll {} {} .epoch .epoch .live
    Sample.consistent_pair Sample.quiet_pair missing removable (by decide +kernel)
    (by decide +kernel)
  exact ⟨by decide +kernel, success, undone⟩

end DesiredState
