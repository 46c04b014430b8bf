import DesiredState.Proofs.Reconcile.Parallel

/-!
# Engines that run alike

Two engines whose calls correspond to each other have syncs that correspond.  The one may run over
a host that remembers more than the other's, or under a token that may cancel it; a run that was
lost corresponds to anything.

Contents:

* `Run.Follows` — a run corresponds to another one unless it is lost.
* `Engine.Simulates`, `Engine.Simulates.sync` — from calls to syncs.
* `Engine.run_sync_live` — a sync that answers is the sync that nothing can cancel.
-/

namespace DesiredState

variable {k : Kind} {σ σ' α β : Type} {R : Session k σ → Session k σ' → Prop} {lost : Failure → Prop}

/-- From related sessions, a run is lost or ends like another run, in related sessions again. -/
def Run.Follows (R : Session k σ → Session k σ' → Prop) (lost : Failure → Prop) (run : Run k σ α)
    (run' : Run k σ' α) : Prop :=
  ∀ x y, R x y →
    (∃ f x', run.run x = (.error f, x') ∧ lost f) ∨
      ∃ answer x' y', run.run x = (answer, x') ∧ run'.run y = (answer, y') ∧ R x' y'

namespace Run.Follows

theorem pure (a : α) : Follows R lost (Pure.pure a) (Pure.pure a) :=
  fun x y related => .inr ⟨.ok a, x, y, rfl, rfl, related⟩

theorem throw (f : Failure) :
    Follows (α := α) R lost (MonadExcept.throw f) (MonadExcept.throw f) :=
  fun x y related => .inr ⟨.error f, x, y, rfl, rfl, related⟩

theorem bind {run : Run k σ β} {run' : Run k σ' β} {rest : β → Run k σ α} {rest' : β → Run k σ' α}
    (first : Follows R lost run run') (second : ∀ b, Follows R lost (rest b) (rest' b)) :
    Follows R lost (run >>= rest) (run' >>= rest') := by
  intro x y related
  rw [run_bind, run_bind]
  rcases first x y related with ⟨f, x', ran, gone⟩ | ⟨answer, x', y', ran, ran', related'⟩
  · rw [ran]
    exact .inl ⟨f, x', rfl, gone⟩
  · rw [ran, ran']
    cases answer with
    | ok b => exact second b x' y' related'
    | error f => exact .inr ⟨.error f, x', y', rfl, rfl, related'⟩

/-- A handler that lets lost runs be lost. -/
theorem tryCatch {run : Run k σ α} {run' : Run k σ' α} {handler : Failure → Run k σ α}
    {handler' : Failure → Run k σ' α} (first : Follows R lost run run')
    (second : ∀ f, Follows R lost (handler f) (handler' f))
    (rethrown : ∀ f, lost f → handler f = MonadExcept.throw f) :
    Follows R lost (MonadExcept.tryCatch run handler) (MonadExcept.tryCatch run' handler') := by
  intro x y related
  rw [run_tryCatch, run_tryCatch]
  rcases first x y related with ⟨f, x', ran, gone⟩ | ⟨answer, x', y', ran, ran', related'⟩
  · rw [ran]
    simp only [rethrown f gone]
    exact .inl ⟨f, x', rfl, gone⟩
  · rw [ran, ran']
    cases answer with
    | ok a => exact .inr ⟨.ok a, x', y', rfl, rfl, related'⟩
    | error f => exact second f x' y' related'

end Run.Follows

/-- The calls of an engine correspond to those of another one. -/
structure Engine.Simulates (R : Session k σ → Session k σ' → Prop) (lost : Failure → Prop)
    (e : Engine k σ) (e' : Engine k σ') : Prop where
  spec : ∀ x y, R x y → x.spec = y.spec
  modified : ∀ (f : Spec k → Spec k) x y, R x y → R { x with spec := f x.spec } { y with spec := f y.spec }
  cancelled : ∀ f, lost f → f.isCancelled = true
  presence : ∀ key, Run.Follows R lost (call .presence (e.gateway.presence key))
    (call .presence (e'.gateway.presence key))
  get : ∀ key, Run.Follows R lost (call .get (e.gateway.get key)) (call .get (e'.gateway.get key))
  create : ∀ s, Run.Follows R lost
    (callKeeping .create (e.gateway.create s) fun created _ => created)
    (callKeeping .create (e'.gateway.create s) fun created _ => created)
  update : ∀ s c, Run.Follows R lost (call .update (e.gateway.update s c))
    (call .update (e'.gateway.update s c))
  tag : ∀ identifier tags, Run.Follows R lost (call .tag (e.gateway.tag identifier tags))
    (call .tag (e'.gateway.tag identifier tags))
  untag : ∀ identifier keys, Run.Follows R lost (call .untag (e.gateway.untag identifier keys))
    (call .untag (e'.gateway.untag identifier keys))

namespace Engine.Simulates

variable {e : Engine k σ} {e' : Engine k σ'} (sim : Engine.Simulates R lost e e')
include sim

theorem parallel : Engine.Parallel (fun _ => Run.Follows R lost) e e' where
  pure := .pure
  throw := .throw
  bind := .bind
  -- A lost run is a cancelled one.
  tryCatch first second passes := .tryCatch first second fun f gone => passes f (sim.cancelled f gone)
  read x y related := .inr ⟨.ok x.spec, x, y, rfl, by rw [sim.spec x y related]; rfl, related⟩
  write f x y related := .inr ⟨.ok (), _, _, rfl, rfl, sim.modified f x y related⟩
  presence := sim.presence
  get := sim.get
  create := sim.create
  update := sim.update
  tag := sim.tag
  untag := sim.untag

theorem sync (now : Instant) : Run.Follows R lost (e.sync now) (e'.sync now) :=
  sim.parallel.sync now

end Engine.Simulates

/-! ## Tokens -/

/-- Under any token a call that is not cancelled does what it does under one that never cancels. -/
theorem Run.Follows.token (op : Operation) (request : Request σ α) (keep : α → Spec k → Spec k) :
    Follows (fun x y => y = { x with token := .live }) (fun f => f.isCancelled = true)
      (Engine.callKeeping op request keep) (Engine.callKeeping op request keep) := by
  rintro ⟨s, w, token⟩ _ rfl
  rw [Run.run_callKeeping_token]
  rcases token.next op with ⟨fate, token'⟩
  cases fate with
  | refused => exact .inl ⟨_, _, rfl, rfl⟩
  | lost => exact .inl ⟨_, _, rfl, rfl⟩
  | returns => exact .inr ⟨_, _, _, rfl, run_callKeeping op request keep s w, rfl⟩

theorem Engine.simulates_live (e : Engine k σ) :
    Engine.Simulates (fun x y => y = { x with token := .live }) (fun f => f.isCancelled = true)
      e e where
  spec := by rintro x _ rfl; rfl
  modified := by rintro f x _ rfl; rfl
  cancelled _ gone := gone
  presence _ := .token _ _ _
  get _ := .token _ _ _
  create _ := .token _ _ _
  update _ _ := .token _ _ _
  tag _ _ := .token _ _ _
  untag _ _ := .token _ _ _

/-- A sync that answers is the sync that nothing can cancel. -/
theorem Engine.run_sync_live (e : Engine k σ) (now : Instant) {s : Spec k} {w : σ} {token : Token}
    {o : SyncOutcome k} {last : Session k σ} (ran : (e.sync now).run ⟨s, w, token⟩ = (.ok o, last)) :
    (e.sync now).run ⟨s, w, .live⟩ = (.ok o, { last with token := .live }) := by
  rcases e.simulates_live.sync now ⟨s, w, token⟩ _ rfl with
    ⟨f, x', lost, -⟩ | ⟨answer, x', y', ran', live, rfl⟩
  · cases ran.symm.trans lost
  · cases ran.symm.trans ran'
    exact live

end DesiredState
