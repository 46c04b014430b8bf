import DesiredState.Proofs.Fleet.Removals

/-!
# What a deletion may do

A deletion chooses its action from policy and specification alone, before anything is asked of the
host.  Then it makes the one call that the action needs, if it needs one.  Whatever is hosted and
whatever is refused, nothing changes but what stands under the identifier; and a deletion that
succeeded succeeds again and finds nothing left to do.

Contents:

* `Engine.intended`, `DeleteAction.call?` — the action of a deletion, and the call that it needs.
* `Performed`, `perform_ends` — what making that call comes to.
* `leaves_leaves` — what an action leaves, it leaves alone.
* `Disposal`, `delete_disposes` — the main result.
-/

namespace DesiredState

variable {k : Kind} {σ : Type}

/-! ## The action and its call -/

/-- The action that a deletion chooses, or the refusal of the policy. -/
def Engine.intended (e : Engine k σ) (s : Spec k) : Except ValidationError DeleteAction :=
  s.effectivePolicy.map fun policy => .resolve policy (e.deletionContext s)

/-- The policy has a name that is unknown, or one that the kind does not allow. -/
def Spec.PolicyRefused (s : Spec k) : Prop :=
  ∃ declared, s.shared.deletionPolicy = some declared ∧
    ∀ policy ∈ k.rules.allowedPolicies, DeletionPolicy.parse? declared ≠ some policy

/-- The text that a call is addressed to. -/
def Call.address : Call k → String
  | .presence key => key
  | .create key => key
  | .get key => key
  | .update identifier _ => identifier
  | .delete identifier _ => identifier
  | .stop identifier => identifier
  | .tag identifier _ => identifier
  | .untag identifier _ => identifier

namespace DeleteAction

/-- The call that an action needs. -/
def call? (identifier : String) : DeleteAction → Option (Call k)
  | .skip _ => none
  | .delete => some (.delete identifier none)
  | .snapshotThenDelete id => some (.delete identifier (some id))
  | .stop => some (.stop identifier)

/-- What is hosted under the identifier is removed. -/
def Removes (action : DeleteAction) : Prop :=
  action = .delete ∨ ∃ id, action = .snapshotThenDelete id

theorem address_of_call? {action : DeleteAction} {identifier : String} {c : Call k}
    (needs : action.call? identifier = some c) : c.address = identifier := by
  cases action with
  | skip reason => cases needs
  | delete => cases needs; rfl
  | snapshotThenDelete id => cases needs; rfl
  | stop => cases needs; rfl

theorem call?_eq_none_iff {action : DeleteAction} {identifier : String} :
    action.call? (k := k) identifier = none ↔ ∃ reason, action = .skip reason := by
  cases action with
  | skip reason => exact ⟨fun _ => ⟨reason, rfl⟩, fun _ => rfl⟩
  | delete => exact ⟨nofun, nofun⟩
  | snapshotThenDelete id => exact ⟨nofun, nofun⟩
  | stop => exact ⟨nofun, nofun⟩

theorem get?_leaves_of_removes {action : DeleteAction} (removes : action.Removes)
    (hosted : Dict (HostedOf k)) (identifier : String) :
    (action.leaves identifier hosted).get? identifier = none := by
  rcases removes with rfl | ⟨id, rfl⟩ <;> simp [leaves, Dict.get?_erase]

/-- A known resource is removed under the policies that say so, and under no other. -/
theorem removes_resolve_iff {policy : DeletionPolicy} {c : DeletionContext}
    (known : c.identifier ≠ "") :
    (resolve policy c).Removes ↔ policy = .delete ∨ policy = .snapshot := by
  cases policy with
  | stop => by_cases quiesced : c.quiesced <;> simp [resolve, Removes, known, quiesced]
  | delete => simp [resolve, Removes, known]
  | retain => simp [resolve, Removes, known]
  | orphan => simp [resolve, Removes, known]
  | snapshot => simp [resolve, Removes, known]

/-- What was never created, is retained or orphaned needs no call. -/
theorem call?_resolve_of_unreached {policy : DeletionPolicy} {c : DeletionContext}
    {identifier : String} (unreached : c.identifier = "" ∨ policy = .retain ∨ policy = .orphan) :
    (resolve policy c).call? (k := k) identifier = none := by
  rw [call?_eq_none_iff]
  by_cases unknown : c.identifier = ""
  · exact ⟨_, resolve_of_unknown unknown⟩
  · rcases unreached.resolve_left unknown with rfl | rfl
    · exact ⟨.retained, by simp [resolve, unknown]⟩
    · exact ⟨.orphaned, by simp [resolve, unknown]⟩

end DeleteAction

theorem Spec.effectivePolicy_eq_error_iff {s : Spec k} :
    (∃ v, s.effectivePolicy = .error v) ↔ s.PolicyRefused := by
  unfold effectivePolicy PolicyRefused
  cases declared : s.shared.deletionPolicy with
  | none => simp
  | some text =>
    cases parsed : DeletionPolicy.parse? text with
    | none => simp [parsed]
    | some policy =>
      by_cases allowed : policy ∈ k.rules.allowedPolicies
      · simp [parsed, allowed]
      · have barred : ∀ other ∈ k.rules.allowedPolicies, ¬policy = other :=
          fun other member same => allowed (same ▸ member)
        simpa [parsed, allowed] using barred

/-! ## Making the call -/

/-- What an action on a specification comes to: there was nothing to call, a fault refused the call,
it did what it is for, or there was nothing to stop. -/
inductive Performed (action : DeleteAction) (s : Spec k) (w : Simulator k) :
    Except Failure Unit → Simulator k → Prop
  | idle (needless : action.call? (k := k) s.identifier = none) : Performed action s w (.ok ()) w
  | struck {c : Call k} {e : GatewayError} (needs : action.call? s.identifier = some c)
      (pending : w.faults c.operation = some e) :
      Performed action s w (.error (.provider k.label c.operation e)) (w.struck c)
  | done {c : Call k} (needs : action.call? s.identifier = some c)
      (there : action = .stop → w.hosted.contains s.identifier = true) :
      Performed action s w (.ok ())
        { w.noted c with hosted := action.leaves s.identifier w.hosted }
  | absent (stop : action = .stop) (missing : w.hosted.contains s.identifier = false) :
      Performed action s w (.error (.provider k.label .stop (.notFound s.identifier)))
        (w.noted (.stop s.identifier))

namespace Run.Ensures

variable {settings : RunSettings} {clock : Instant} {s : Spec k} {w : Simulator k}

/-- A call that no fault refuses ends with the answer of the host. -/
theorem answered {α : Type} {post : Except Failure α → Spec k → Simulator k → Prop} {c : Call k}
    {act : Request (Simulator k) α} {keep : α → Spec k → Spec k} {r : Except GatewayError α}
    {w' : Simulator k}
    (struck : ∀ e, w.faults c.operation = some e →
      post (.error (.provider k.label c.operation e)) s (w.struck c))
    (acted : act (w.noted c) = (r, w'))
    (holds : post (r.mapError (.provider k.label c.operation)) (Engine.kept keep r s) w') :
    Run.Ensures (Engine.callKeeping c.operation (Simulator.enter c act) keep) s w post := by
  refine enter struck fun _ => ⟨_, _, _, run_callKeeping _ _ _ s (w.noted c), ?_⟩
  rw [acted]
  exact holds

/-- Stopping what stands under an identifier, for kinds that can be stopped. -/
theorem stop_ends (stoppable : ∀ h : HostedOf k, ∃ h', Hosted.stop h = some h') :
    (Engine.call .stop ((settings.engine clock k).gateway.stop s)).Ensures s w
      fun answer s' w' => s' = s ∧ Performed .stop s w answer w' := by
  simp only [Engine.call, RunSettings.engine, Simulator.gateway]
  have struck : ∀ e, w.faults (.stop) = some e → s = s ∧ Performed .stop s w
      (.error (.provider k.label .stop e)) (w.struck (.stop s.identifier)) :=
    fun e pending => ⟨rfl, .struck (c := .stop s.identifier) rfl pending⟩
  have same : (w.noted (.stop s.identifier)).hosted = w.hosted := rfl
  cases found : w.hosted.get? s.identifier with
  | none =>
    refine answered (c := .stop s.identifier) struck (r := .error (.notFound s.identifier)) ?_
      ⟨rfl, .absent rfl (Dict.contains_eq_false_iff.mpr found)⟩
    simp only [Simulator.modifyHosted, same, found]
  | some h =>
    obtain ⟨h', stopped⟩ := stoppable h
    refine answered (c := .stop s.identifier) struck (r := .ok ()) ?_
      ⟨rfl, .done rfl fun _ => Dict.contains_iff.mpr ⟨h, found⟩⟩
    simp only [Simulator.modifyHosted, same, found, stopped, DeleteAction.leaves, Option.bind_some]

/-- Removing succeeds whether anything is there or not. -/
theorem remove_ends {action : DeleteAction} {snapshot : Option String}
    (needs : action.call? (k := k) s.identifier = some (.delete s.identifier snapshot))
    (leaves : action.leaves s.identifier w.hosted = w.hosted.erase s.identifier)
    (removes : action ≠ .stop) :
    (Engine.call .delete ((settings.engine clock k).gateway.delete s snapshot)).Ensures s w
      fun answer s' w' => s' = s ∧ Performed action s w answer w' := by
  simp only [Engine.call, RunSettings.engine, Simulator.gateway]
  refine answered (c := .delete s.identifier snapshot) (r := .ok ())
    (fun e pending => ⟨rfl, .struck needs pending⟩) ?_
    ⟨rfl, .done needs fun stop => absurd stop removes⟩
  rw [leaves]
  rfl

theorem perform_ends {action : DeleteAction}
    (stoppable : action = .stop → ∀ h : HostedOf k, ∃ h', Hosted.stop h = some h') :
    ((settings.engine clock k).perform s action).Ensures s w fun answer s' w' =>
      s' = s ∧ Performed action s w answer w' := by
  cases action with
  | skip reason => exact pure ⟨rfl, .idle rfl⟩
  | delete => exact remove_ends rfl rfl nofun
  | snapshotThenDelete id => exact remove_ends rfl rfl nofun
  | stop => exact stop_ends (stoppable rfl)

end Run.Ensures

/-! ## Deleting again -/

/-- What is stopped stays as it is when it is stopped again. -/
theorem Kind.stop_stop (k : Kind) {h h' : HostedOf k} (stopped : Hosted.stop h = some h') :
    Hosted.stop h' = some h' := by
  obtain ⟨a, stopped, rfl⟩ := Option.map_eq_some_iff.mp stopped
  cases k with
  | server => cases stopped; rfl
  | queue => cases stopped
  | database => cases stopped
  | cryptoKey => cases stopped
  | dnsZone => cases stopped
  | cloudFunction => cases stopped
  | table => cases stopped

/-- An action leaves alone what it has left. -/
theorem DeleteAction.leaves_leaves (action : DeleteAction) (identifier : String)
    (hosted : Dict (HostedOf k)) :
    action.leaves identifier (action.leaves identifier hosted) =
      action.leaves identifier hosted := by
  have erased : (hosted.erase identifier).erase identifier = hosted.erase identifier :=
    Dict.erase_of_get?_none (by simp [Dict.get?_erase])
  cases action with
  | skip reason => rfl
  | delete => exact erased
  | snapshotThenDelete id => exact erased
  | stop =>
    cases there : (hosted.get? identifier).bind Hosted.stop with
    | none => simp only [leaves, there]
    | some h' =>
      obtain ⟨h, -, stopped⟩ := Option.bind_eq_some_iff.mp there
      simp only [leaves, there, Dict.get?_insert_self, Option.bind_some, k.stop_stop stopped,
        Dict.insert_insert]

/-- What succeeded left what the action leaves. -/
theorem Performed.hosted_eq {action : DeleteAction} {s : Spec k} {w w' : Simulator k}
    (performed : Performed action s w (.ok ()) w') :
    w'.hosted = action.leaves s.identifier w.hosted ∧
      (action = .stop → w.hosted.contains s.identifier = true) := by
  cases performed with
  | idle needless =>
    obtain ⟨reason, rfl⟩ := DeleteAction.call?_eq_none_iff.mp needless
    exact ⟨rfl, nofun⟩
  | done needs there => exact ⟨rfl, there⟩

/-- What succeeded succeeds again, and changes nothing then. -/
theorem Performed.again {action : DeleteAction} {s : Spec k} {w w' : Simulator k}
    (performed : Performed action s w (.ok ()) w')
    (stoppable : action = .stop → ∀ h : HostedOf k, ∃ h', Hosted.stop h = some h')
    (settings : RunSettings) (clock : Instant) :
    ((settings.engine clock k).perform s action).Ensures s w'.calm fun answer s' w'' =>
      answer = .ok () ∧ s' = s ∧ w''.hosted = w'.hosted := by
  obtain ⟨left, there⟩ := performed.hosted_eq
  have stops : action = .stop → ∃ h h', w'.calm.hosted.get? s.identifier = some h ∧
      Hosted.stop h = some h' := by
    intro stop
    obtain ⟨h, found⟩ := Dict.contains_iff.mp (there stop)
    obtain ⟨h', kept, -⟩ := DeleteAction.leaves_of_keeps (.inl stop) found
    obtain ⟨h'', stopped⟩ := stoppable stop h'
    exact ⟨h', h'', (congrArg (·.get? s.identifier) left).trans kept, stopped⟩
  refine (perform_leaves (fun _ => rfl) stops).mono ?_
  rintro answer s' w'' ⟨rfl, rfl, made⟩
  refine ⟨rfl, rfl, made.hosted.trans ?_⟩
  show action.leaves _ w'.hosted = w'.hosted
  rw [left, action.leaves_leaves]

namespace Performed

variable {action : DeleteAction} {s : Spec k} {w w' : Simulator k} {answer : Except Failure Unit}

theorem journal_eq (performed : Performed action s w answer w') :
    w'.journal = w.journal ++ (action.call? (k := k) s.identifier).toList := by
  cases performed with
  | idle needless => rw [needless, Option.toList_none, List.append_nil]
  | struck needs _ => rw [needs]; rfl
  | done needs _ => rw [needs]; rfl
  | absent stop _ => rw [stop]; rfl

theorem get?_of_ne (performed : Performed action s w answer w') {key : String}
    (other : key ≠ s.identifier) : w'.hosted.get? key = w.hosted.get? key := by
  cases performed with
  | idle _ => rfl
  | struck _ _ => rfl
  | done _ _ => exact action.leaves_of_ne other
  | absent _ _ => rfl

theorem hosted_of_error {f : Failure} (performed : Performed action s w (.error f) w') :
    w'.hosted = w.hosted := by
  cases performed <;> rfl

theorem ne_validation (performed : Performed action s w answer w') (v : ValidationError) :
    answer ≠ .error (.validation v) := by
  cases performed <;> nofun

/-- An action without a call does nothing, and cannot fail. -/
theorem of_needless (performed : Performed action s w answer w')
    (needless : action.call? (k := k) s.identifier = none) : answer = .ok () ∧ w' = w := by
  cases performed with
  | idle _ => exact ⟨rfl, rfl⟩
  | struck needs _ => rw [needless] at needs; cases needs
  | done needs _ => rw [needless] at needs; cases needs
  | absent stop _ => rw [stop] at needless; cases needless

/-- Without faults there is one way to fail. -/
theorem of_quiet (performed : Performed action s w answer w') (quiet : ∀ op, w.faults op = none) :
    answer = .ok () ∧ (action = .stop → w.hosted.contains s.identifier = true) ∨
      answer = .error (.provider k.label .stop (.notFound s.identifier)) ∧ action = .stop ∧
        w.hosted.contains s.identifier = false := by
  cases performed with
  | idle needless =>
    obtain ⟨reason, rfl⟩ := DeleteAction.call?_eq_none_iff.mp needless
    exact .inl ⟨rfl, nofun⟩
  | struck _ pending => rw [quiet] at pending; cases pending
  | done _ there => exact .inl ⟨rfl, there⟩
  | absent stop missing => exact .inr ⟨rfl, stop, missing⟩

end Performed

/-! ## The main result -/

/-- What holds of a deletion that made these calls, at most one. -/
structure Disposal (settings : RunSettings) (clock : Instant) (s : Spec k) (w : Simulator k)
    (call : Option (Call k)) (answer : Except Failure DeleteAction) (s' : Spec k)
    (w' : Simulator k) : Prop where
  spec : s' = s
  journal : w'.journal = w.journal ++ call.toList
  addressed : ∀ c, call = some c → c.address = s.identifier
  /-- No call is made exactly when the policy is refused or the resource is skipped. -/
  silent : call = none ↔
    (∃ v, answer = .error (.validation v)) ∨ ∃ reason, answer = .ok (.skip reason)
  refused : (∃ v, answer = .error (.validation v)) ↔ s.PolicyRefused
  /-- What was never created, is retained or orphaned is not talked about with the host. -/
  unreached :
    s.identifier = "" ∨ s.effectivePolicy = .ok .retain ∨ s.effectivePolicy = .ok .orphan → w' = w
  others : ∀ key, key ≠ s.identifier → w'.hosted.get? key = w.hosted.get? key
  failed : ∀ f, answer = .error f → w'.hosted = w.hosted
  /-- The call is the one that the action needs, and names the snapshot that the action names. -/
  chosen : ∀ action, (settings.engine clock k).intended s = .ok action →
    call = action.call? s.identifier
  answered : ∀ action, answer = .ok action → (settings.engine clock k).intended s = .ok action
  removed : (∀ op, w.faults op = none) → ∀ action,
    (settings.engine clock k).intended s = .ok action → action.Removes →
      answer = .ok action ∧ w'.hosted.contains s.identifier = false
  stopped : (∀ op, w.faults op = none) → (settings.engine clock k).intended s = .ok .stop →
    (answer = .ok .stop ↔ w.hosted.contains s.identifier = true)
  supported : (∀ op, w.faults op = none) → ∀ kind op op',
    answer ≠ .error (.provider kind op (.unsupported op'))
  deletable : s.identifier ≠ "" →
    ((∃ action, (settings.engine clock k).intended s = .ok action ∧ action.Removes) ↔
      s.isDeletable = true)
  /-- Once it succeeded, it succeeds again with the same action and changes nothing. -/
  again : ∀ action, answer = .ok action → ∀ clock',
    ((settings.engine clock' k).delete).Ensures s w'.calm fun answer' s'' w'' =>
      answer' = .ok action ∧ s'' = s ∧ w''.hosted = w'.hosted

variable {settings : RunSettings} {clock : Instant} {s : Spec k} {w w' : Simulator k}

theorem Engine.intended_of_ok {e : Engine k σ} {policy : DeletionPolicy}
    (allowed : s.effectivePolicy = .ok policy) :
    e.intended s = .ok (.resolve policy (e.deletionContext s)) := by
  rw [intended, allowed]
  rfl

theorem Engine.policy_of_intended {e : Engine k σ} {action : DeleteAction}
    (intended : e.intended s = .ok action) :
    ∃ policy, s.effectivePolicy = .ok policy ∧
      DeleteAction.resolve policy (e.deletionContext s) = action := by
  unfold Engine.intended at intended
  cases effective : s.effectivePolicy with
  | error v => simp [effective, Except.map] at intended
  | ok policy =>
    rw [effective] at intended
    exact ⟨policy, rfl, Except.ok.inj intended⟩

/-- A known resource is removed exactly if it is deletable. -/
theorem Engine.removes_iff_isDeletable (e : Engine k σ) (known : s.identifier ≠ "") :
    (∃ action, e.intended s = .ok action ∧ action.Removes) ↔ s.isDeletable = true := by
  cases effective : s.effectivePolicy with
  | error v => simp [intended, Spec.isDeletable, effective, Except.map]
  | ok policy =>
    have removes : (DeleteAction.resolve policy (e.deletionContext s)).Removes ↔ _ :=
      DeleteAction.removes_resolve_iff known
    rw [intended_of_ok effective]
    cases policy <;> simp_all [Spec.isDeletable]

/-- A refused policy costs no call. -/
theorem disposal_refused {v : ValidationError} (refused : s.effectivePolicy = .error v) :
    Disposal settings clock s w none (.error (.validation v)) s w := by
  have intended : (settings.engine clock k).intended s = .error v := by
    rw [Engine.intended, refused]
    rfl
  refine ⟨rfl, (List.append_nil _).symm, nofun, ?_, ?_, fun _ => rfl, fun _ _ => rfl,
    fun _ _ => rfl, ?_, nofun, ?_, ?_, ?_, (settings.engine clock k).removes_iff_isDeletable, nofun⟩
  · exact ⟨fun _ => .inl ⟨v, rfl⟩, fun _ => rfl⟩
  · exact ⟨fun _ => Spec.effectivePolicy_eq_error_iff.mp ⟨v, refused⟩, fun _ => ⟨v, rfl⟩⟩
  · rw [intended]
    nofun
  · rw [intended]
    nofun
  · rw [intended]
    nofun
  · nofun

/-- A deletion whose policy is accepted makes the call of its action. -/
theorem Performed.disposal {policy : DeletionPolicy} {action : DeleteAction}
    {answer : Except Failure Unit} (allowed : s.effectivePolicy = .ok policy)
    (resolved : DeleteAction.resolve policy ((settings.engine clock k).deletionContext s) = action)
    (performed : Performed action s w answer w') :
    Disposal settings clock s w (action.call? s.identifier) (answer.map fun _ => action) s w' := by
  have intended : ∀ clock, (settings.engine clock k).intended s = .ok action := by
    intro clock'
    rw [Engine.intended_of_ok allowed, ← resolved]
    rfl
  have only : ∀ {action'}, (settings.engine clock k).intended s = .ok action' →
      action' = action := by
    intro action' same
    exact (Except.ok.inj ((intended clock).symm.trans same)).symm
  have known : ∀ {action'}, (answer.map fun _ => action) = .ok action' →
      answer = .ok () ∧ action' = action := by
    cases answer with
    | ok _ => exact fun same => ⟨rfl, (Except.ok.inj same).symm⟩
    | error f => nofun
  have failure : ∀ {f}, (answer.map fun _ => action) = .error f → answer = .error f := by
    cases answer with
    | ok _ => nofun
    | error f => exact fun same => congrArg Except.error (Except.error.inj same)
  have stoppable : action = .stop → ∀ h : HostedOf k, ∃ h', Hosted.stop h = some h' := by
    rintro rfl h
    obtain ⟨rfl, -⟩ := DeleteAction.of_resolve_eq_stop resolved
    exact k.stop_isSome (Spec.mem_allowedPolicies allowed) h
  exact {
    spec := rfl
    journal := performed.journal_eq
    addressed := fun c => DeleteAction.address_of_call?
    silent := by
      constructor
      · intro needless
        obtain ⟨rfl, -⟩ := performed.of_needless needless
        obtain ⟨reason, rfl⟩ := DeleteAction.call?_eq_none_iff.mp needless
        exact .inr ⟨reason, rfl⟩
      · rintro (⟨v, refused⟩ | ⟨reason, skipped⟩)
        · exact absurd (failure refused) (performed.ne_validation v)
        · exact DeleteAction.call?_eq_none_iff.mpr ⟨reason, (known skipped).2.symm⟩
    refused := by
      constructor
      · rintro ⟨v, refused⟩
        exact absurd (failure refused) (performed.ne_validation v)
      · intro refused
        obtain ⟨v, effective⟩ := Spec.effectivePolicy_eq_error_iff.mpr refused
        cases effective.symm.trans allowed
    unreached := by
      intro unreached
      refine (performed.of_needless ?_).2
      rw [← resolved]
      refine DeleteAction.call?_resolve_of_unreached (unreached.imp id (.imp ?_ ?_))
      · exact fun retained => Except.ok.inj (allowed.symm.trans retained)
      · exact fun orphaned => Except.ok.inj (allowed.symm.trans orphaned)
    others := fun _ => performed.get?_of_ne
    failed := fun f failed => by
      cases failure failed
      exact performed.hosted_of_error
    chosen := fun action' same => by rw [only same]
    answered := fun action' same => by rw [(known same).2, intended]
    removed := by
      intro quiet action' same removes
      obtain rfl := only same
      rcases performed.of_quiet quiet with ⟨rfl, -⟩ | ⟨-, stop, -⟩
      · refine ⟨rfl, Dict.contains_eq_false_iff.mpr ?_⟩
        rw [performed.hosted_eq.1]
        exact DeleteAction.get?_leaves_of_removes removes w.hosted s.identifier
      · rcases removes with rfl | ⟨id, rfl⟩ <;> cases stop
    stopped := by
      intro quiet same
      obtain rfl := only same
      rcases performed.of_quiet quiet with ⟨rfl, there⟩ | ⟨rfl, -, missing⟩
      · exact ⟨fun _ => there rfl, fun _ => rfl⟩
      · exact ⟨nofun, fun there => absurd there (by simp [missing])⟩
    supported := by
      intro quiet kind op op' unsupported
      rcases performed.of_quiet quiet with ⟨rfl, -⟩ | ⟨rfl, -⟩
      · cases unsupported
      · cases unsupported
    deletable := (settings.engine clock k).removes_iff_isDeletable
    again := by
      intro action' same clock'
      obtain ⟨rfl, rfl⟩ := known same
      refine Run.Ensures.delete allowed ?_
      have resolved' : DeleteAction.resolve policy
          ((settings.engine clock' k).deletionContext s) = action' := resolved
      rw [resolved']
      refine (performed.again stoppable settings clock').mono ?_
      rintro answer s' w'' ⟨rfl, rfl, same⟩
      exact ⟨rfl, rfl, same⟩ }

/-- Whatever is hosted and whatever faults are pending, a deletion keeps its contract. -/
theorem delete_disposes (settings : RunSettings) (clock : Instant) (s : Spec k) (w : Simulator k) :
    ((settings.engine clock k).delete).Ensures s w fun answer s' w' =>
      ∃ call, Disposal settings clock s w call answer s' w' := by
  cases effective : s.effectivePolicy with
  | error v =>
    unfold Engine.delete
    refine .bind (.spec ?_)
    simp only [effective]
    exact .throw ⟨none, disposal_refused effective⟩
  | ok policy =>
    refine Run.Ensures.delete effective ?_
    have stoppable : DeleteAction.resolve policy ((settings.engine clock k).deletionContext s) =
        .stop → ∀ h : HostedOf k, ∃ h', Hosted.stop h = some h' := by
      intro stop h
      obtain ⟨rfl, -⟩ := DeleteAction.of_resolve_eq_stop stop
      exact k.stop_isSome (Spec.mem_allowedPolicies effective) h
    refine (Run.Ensures.perform_ends stoppable).mono ?_
    rintro (f | _) s' w' ⟨rfl, performed⟩
    · exact ⟨_, performed.disposal effective rfl⟩
    · exact ⟨_, performed.disposal effective rfl⟩

end DesiredState
