import DesiredState.Fleet.Run
import DesiredState.Proofs.Host.Consistent
import DesiredState.Proofs.Reconcile.Ensures
import DesiredState.Proofs.Resource.Settled

/-!
# What a run yields

Every run ends, also one that its token cancels.  `Run.Yields` says of the end, whatever the token
and the faults are, that it satisfies a condition.  A call that is not made, or is refused, leaves
everything as it was; a call whose answer is lost has been made nevertheless.

Contents:

* `Run.Yields` — the end of a run satisfies a condition, with a rule for each construct.
* `Idle`, `Steady` — nothing was changed, or nothing but attributes and tags.
* `presence`, `get`, `create`, `modified` — the rules of the calls to a simulated host.
-/

namespace DesiredState

variable {k : Kind} {σ α β : Type}

/-- From a session, a run ends in a certain way. -/
structure Run.Yields (run : Run k σ α) (x : Session k σ)
    (post : Except Failure α → Session k σ → Prop) : Prop where
  ends : post (run.run x).1 (run.run x).2

namespace Run.Yields

variable {x : Session k σ} {post : Except Failure α → Session k σ → Prop}

theorem mono {run : Run k σ α} {post' : Except Failure α → Session k σ → Prop}
    (yields : run.Yields x post) (weaker : ∀ answer y, post answer y → post' answer y) :
    run.Yields x post' :=
  ⟨weaker _ _ yields.ends⟩

theorem pure {a : α} (holds : post (.ok a) x) : Run.Yields (Pure.pure a) x post := ⟨holds⟩

theorem throw {f : Failure} (holds : post (.error f) x) :
    Run.Yields (MonadExcept.throw f) x post := ⟨holds⟩

theorem bind {run : Run k σ β} {rest : β → Run k σ α}
    (first : run.Yields x fun
      | .ok b, y => (rest b).Yields y post
      | .error f, y => post (.error f) y) :
    Run.Yields (run >>= rest) x post := by
  obtain ⟨first⟩ := first
  constructor
  rw [run_bind]
  generalize run.run x = ended at *
  obtain ⟨f | b, y⟩ := ended
  · exact first
  · exact first.ends

theorem tryCatch {run : Run k σ α} {handler : Failure → Run k σ α}
    (first : run.Yields x fun
      | .ok a, y => post (.ok a) y
      | .error f, y => (handler f).Yields y post) :
    Run.Yields (MonadExcept.tryCatch run handler) x post := by
  obtain ⟨first⟩ := first
  constructor
  rw [run_tryCatch]
  generalize run.run x = ended at *
  obtain ⟨f | a, y⟩ := ended
  · exact first.ends
  · exact first

theorem spec {post : Except Failure (Spec k) → Session k σ → Prop} (holds : post (.ok x.spec) x) :
    Run.Yields Engine.spec x post := ⟨holds⟩

theorem modifySpec {post : Except Failure Unit → Session k σ → Prop} {f : Spec k → Spec k}
    (holds : post (.ok ()) { x with spec := f x.spec }) :
    Run.Yields (Engine.modifySpec f) x post := ⟨holds⟩

end Run.Yields

/-! ## What calls leave as it was -/

/-- Specification and resources are as before. -/
structure Idle (x y : Session k (Simulator k)) : Prop where
  spec : y.spec = x.spec
  hosted : y.world.hosted = x.world.hosted
  serial : y.world.serial = x.world.serial

/-- Nothing but attributes and tags was changed: the specification has the same intent, identifier
and time, and every resource has the same name under the same key. -/
structure Steady (x y : Session k (Simulator k)) : Prop where
  intent : y.spec.intent = x.spec.intent
  identifier : y.spec.identifier = x.spec.identifier
  time : y.spec.shared.lastSyncTime = x.spec.shared.lastSyncTime
  names : ∀ key, (y.world.hosted.get? key).map Hosted.name = (x.world.hosted.get? key).map Hosted.name
  serial : y.world.serial = x.world.serial

section

variable {x y z : Session k (Simulator k)}

theorem Idle.refl (x : Session k (Simulator k)) : Idle x x := ⟨rfl, rfl, rfl⟩

theorem Idle.trans (first : Idle x y) (second : Idle y z) : Idle x z :=
  ⟨second.spec.trans first.spec, second.hosted.trans first.hosted, second.serial.trans first.serial⟩

theorem Idle.steady (idle : Idle x y) : Steady x y := by
  obtain ⟨spec, hosted, serial⟩ := idle
  exact ⟨by rw [spec], by rw [spec], by rw [spec], fun _ => by rw [hosted], serial⟩

theorem Steady.refl (x : Session k (Simulator k)) : Steady x x := (Idle.refl x).steady

theorem Steady.trans (first : Steady x y) (second : Steady y z) : Steady x z :=
  ⟨second.intent.trans first.intent, second.identifier.trans first.identifier,
    second.time.trans first.time, fun key => (second.names key).trans (first.names key),
    second.serial.trans first.serial⟩

theorem Steady.observe (x : Session k (Simulator k)) (h : HostedOf k) :
    Steady x { x with spec := x.spec.observe h } :=
  ⟨rfl, rfl, rfl, fun _ => rfl, rfl⟩

end

/-! ## Calls to a simulated host -/

namespace Run.Yields

variable {settings : RunSettings} {clock : Instant} {x : Session k (Simulator k)}

/-- A call is not made, or a fault refuses it; or it is made, and its answer may be lost. -/
theorem entered {post : Except Failure α → Session k (Simulator k) → Prop} {c : Call k}
    {act : Request (Simulator k) α} {keep : α → Spec k → Spec k}
    (failed : ∀ f y, Idle x y → post (.error f) y)
    (acted : ∀ y, y.spec = Engine.kept keep (act (x.world.noted c)).1 x.spec →
      y.world = (act (x.world.noted c)).2 →
      (∀ f, post (.error f) y) ∧ post ((act (x.world.noted c)).1.mapError
        (.provider k.label c.operation)) y) :
    Run.Yields (Engine.callKeeping c.operation (Simulator.enter c act) keep) x post := by
  obtain ⟨s, w, token⟩ := x
  constructor
  rw [run_callKeeping_token]
  rcases token.next c.operation with ⟨fate, token'⟩
  cases pending : w.faults c.operation with
  | some e =>
    rw [Simulator.enter_of_fault pending]
    cases fate <;> exact failed _ _ ⟨rfl, rfl, rfl⟩
  | none =>
    rw [Simulator.enter_of_quiet pending]
    cases fate with
    | refused => exact failed _ _ ⟨rfl, rfl, rfl⟩
    | lost => exact (acted ⟨_, _, token'⟩ rfl rfl).1 _
    | returns => exact (acted ⟨_, _, token'⟩ rfl rfl).2

theorem presence {post : Except Failure Bool → Session k (Simulator k) → Prop} {key : String}
    (failed : ∀ f y, Idle x y → post (.error f) y)
    (answered : ∀ y, Idle x y → post (.ok (Host.find? x.world.hosted key).isSome) y) :
    Run.Yields (Engine.call .presence ((settings.engine clock k).gateway.presence key)) x post := by
  simp only [Engine.call, RunSettings.engine, Simulator.gateway]
  refine entered (c := .presence key) failed fun y spec world => ?_
  have idle : Idle x y := ⟨spec, by rw [world]; rfl, by rw [world]; rfl⟩
  exact ⟨fun f => failed f y idle, answered y idle⟩

theorem get {post : Except Failure (HostedOf k) → Session k (Simulator k) → Prop} {key : String}
    (failed : ∀ f y, Idle x y → post (.error f) y)
    (found : ∀ h y, x.world.current? key = some h → Idle x y → post (.ok h) y) :
    Run.Yields (Engine.call .get ((settings.engine clock k).gateway.get key)) x post := by
  simp only [Engine.call, RunSettings.engine, Simulator.gateway]
  refine entered (c := .get key) failed ?_
  have same : (x.world.noted (.get key)).current? key = x.world.current? key := rfl
  simp only [same]
  cases there : x.world.current? key with
  | none =>
    intro y spec world
    have idle : Idle x y := ⟨spec, by rw [world]; rfl, by rw [world]; rfl⟩
    exact ⟨fun f => failed f y idle, failed _ y idle⟩
  | some h =>
    intro y spec world
    have idle : Idle x y := ⟨spec, by rw [world]; rfl, by rw [world]; rfl⟩
    exact ⟨fun f => failed f y idle, found h y there idle⟩

/-- A creation whose answer is lost is kept in the specification all the same. -/
theorem create {post : Except Failure (Spec k) → Session k (Simulator k) → Prop}
    (failed : ∀ f y, Idle x y → post (.error f) y)
    (made : ∀ y, Host.find? x.world.hosted x.spec.name = none →
      y.spec = (x.spec.withIdentifier (k.identifier x.world.serial.next)).observe
        (x.spec.materialize clock (k.identifier x.world.serial.next)) →
      y.world.hosted = x.world.hosted.insert (k.identifier x.world.serial.next)
        (x.spec.materialize clock (k.identifier x.world.serial.next)) →
      y.world.serial = x.world.serial.succ →
      (∀ f, post (.error f) y) ∧ post (.ok y.spec) y) :
    Run.Yields (Engine.callKeeping .create ((settings.engine clock k).gateway.create x.spec)
      fun created _ => created) x post := by
  simp only [RunSettings.engine, Simulator.gateway]
  refine entered (c := .create x.spec.name) failed ?_
  simp only [Simulator.host]
  have same : Host.find? (x.world.noted (.create x.spec.name)).hosted x.spec.name =
    Host.find? x.world.hosted x.spec.name := rfl
  rw [same]
  split
  next taken =>
    intro y spec world
    have idle : Idle x y := ⟨spec, by rw [world]; rfl, by rw [world]; rfl⟩
    exact ⟨fun f => failed f y idle, failed _ y idle⟩
  next free =>
    intro y spec world
    have holds := made y (by simpa using free) spec (by rw [world]; rfl) (by rw [world]; rfl)
    rw [spec] at holds
    exact holds

/-- The rule of the calls that change one resource, but not its name. -/
theorem modified {post : Except Failure Unit → Session k (Simulator k) → Prop} {c : Call k}
    {identifier : String} {f : HostedOf k → HostedOf k} (named : ∀ h, (f h).name = h.name)
    (steady : ∀ answer y, Steady x y → post answer y) :
    Run.Yields (Engine.call c.operation
      (Simulator.enter c (Simulator.modifyHosted identifier fun h => .ok (f h)))) x post := by
  refine entered (fun e y idle => steady _ y idle.steady) ?_
  have same : (x.world.noted c).hosted.get? identifier = x.world.hosted.get? identifier := rfl
  simp only [Simulator.modifyHosted, same]
  cases there : x.world.hosted.get? identifier with
  | none =>
    intro y spec world
    have idle : Idle x y := ⟨spec, by rw [world]; rfl, by rw [world]; rfl⟩
    exact ⟨fun f => steady _ y idle.steady, steady _ y idle.steady⟩
  | some h =>
    intro y spec world
    have spec' : y.spec = x.spec := spec
    have hosted : y.world.hosted = x.world.hosted.insert identifier (f h) := by rw [world]; rfl
    have kept : Steady x y := by
      refine ⟨by rw [spec'], by rw [spec'], by rw [spec'], fun key => ?_, by rw [world]; rfl⟩
      by_cases other : key = identifier
      · rw [hosted, other, Dict.get?_insert_self, there, Option.map_some, Option.map_some, named]
      · rw [hosted, Dict.get?_insert_of_ne _ _ other]
    exact ⟨fun f => steady _ y kept, steady _ y kept⟩

theorem update {post : Except Failure Unit → Session k (Simulator k) → Prop} {t : Spec k}
    {c : k.Change} (steady : ∀ answer y, Steady x y → post answer y) :
    Run.Yields (Engine.call .update ((settings.engine clock k).gateway.update t c)) x post :=
  modified (c := .update t.identifier c) (fun _ => rfl) steady

theorem tag {post : Except Failure Unit → Session k (Simulator k) → Prop} {identifier : String}
    {tags : Tags} (steady : ∀ answer y, Steady x y → post answer y) :
    Run.Yields (Engine.call .tag ((settings.engine clock k).gateway.tag identifier tags)) x post :=
  modified (c := .tag identifier tags) (fun _ => rfl) steady

theorem untag {post : Except Failure Unit → Session k (Simulator k) → Prop} {identifier : String}
    {keys : List String} (steady : ∀ answer y, Steady x y → post answer y) :
    Run.Yields (Engine.call .untag ((settings.engine clock k).gateway.untag identifier keys)) x
      post :=
  modified (c := .untag identifier keys) (fun _ => rfl) steady

end Run.Yields

end DesiredState
