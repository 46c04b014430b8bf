import DesiredState.Proofs.Host.Faults
import DesiredState.Reconcile.Engine

/-!
# What a run ensures

A run under a token that nothing cancels always ends: with an answer or a failure, a specification
and a host.  `Run.Ensures` says that these three satisfy a condition, and has one rule for each way
in which runs are put together.

Contents:

* `Run.Ensures` — the end of a run satisfies a condition.
* `pure`, `bind`, `tryCatch`, … — the rules for steps and their sequence.
* `callKeeping`, `call`, `enter` — the rules for calls.
-/

namespace DesiredState

variable {k : Kind} {σ α β : Type}

namespace Run

theorem run_bind (run : Run k σ β) (rest : β → Run k σ α) (x : Session k σ) :
    (run >>= rest).run x =
      match run.run x with
      | (.ok b, x') => (rest b).run x'
      | (.error f, x') => (.error f, x') := by
  rw [ExceptT.run_bind]
  show (run.run >>= _) _ = _
  simp only [StateT.bind, Bind.bind]
  rcases run.run x with ⟨b | f, x'⟩ <;> rfl

theorem run_tryCatch (run : Run k σ α) (handler : Failure → Run k σ α) (x : Session k σ) :
    (MonadExcept.tryCatch run handler).run x =
      match run.run x with
      | (.ok a, x') => (.ok a, x')
      | (.error f, x') => (handler f).run x' := by
  rw [ExceptT.run_tryCatch]
  show (run.run >>= _) _ = _
  simp only [StateT.bind, Bind.bind]
  rcases run.run x with ⟨a | f, x'⟩ <;> rfl

theorem run_callKeeping_token (op : Operation) (request : Request σ α) (keep : α → Spec k → Spec k)
    (s : Spec k) (w : σ) (token : Token) :
    (Engine.callKeeping op request keep).run ⟨s, w, token⟩ =
      match token.next op with
      | (.refused, token) => (.error (.cancelled k.label op), ⟨s, w, token⟩)
      | (.lost, token) =>
        (.error (.cancelled k.label op), ⟨Engine.kept keep (request w).1 s, (request w).2, token⟩)
      | (.returns, token) =>
        ((request w).1.mapError (.provider k.label op),
          ⟨Engine.kept keep (request w).1 s, (request w).2, token⟩) :=
  rfl

theorem run_callKeeping (op : Operation) (request : Request σ α) (keep : α → Spec k → Spec k)
    (s : Spec k) (w : σ) :
    (Engine.callKeeping op request keep).run ⟨s, w, .live⟩ =
      ((request w).1.mapError (.provider k.label op),
        ⟨Engine.kept keep (request w).1 s, (request w).2, .live⟩) :=
  rfl

end Run

/-- From a specification and a host, a run that nothing cancels ends in a certain way. -/
def Run.Ensures (run : Run k σ α) (s : Spec k) (w : σ)
    (post : Except Failure α → Spec k → σ → Prop) : Prop :=
  ∃ answer s' w', run.run ⟨s, w, .live⟩ = (answer, ⟨s', w', .live⟩) ∧ post answer s' w'

namespace Run.Ensures

variable {s : Spec k} {w : σ} {post : Except Failure α → Spec k → σ → Prop}

theorem mono {run : Run k σ α} {post' : Except Failure α → Spec k → σ → Prop}
    (ensures : run.Ensures s w post) (weaker : ∀ answer s' w', post answer s' w' → post' answer s' w') :
    run.Ensures s w post' := by
  obtain ⟨answer, s', w', ran, holds⟩ := ensures
  exact ⟨answer, s', w', ran, weaker answer s' w' holds⟩

/-- What is ensured holds of the end that a run has, and the token is live still. -/
theorem elim {run : Run k σ α} (ensures : run.Ensures s w post) {answer : Except Failure α}
    {last : Session k σ} (ran : run.run ⟨s, w, .live⟩ = (answer, last)) :
    post answer last.spec last.world ∧ last.token = .live := by
  obtain ⟨answer', s', w', ran', holds⟩ := ensures
  obtain ⟨rfl, rfl⟩ := Prod.mk.inj (ran.symm.trans ran')
  exact ⟨holds, rfl⟩

/-! ## Steps -/

theorem pure {a : α} (holds : post (.ok a) s w) : Run.Ensures (Pure.pure a) s w post :=
  ⟨.ok a, s, w, rfl, holds⟩

theorem throw {f : Failure} (holds : post (.error f) s w) :
    Run.Ensures (MonadExcept.throw f) s w post :=
  ⟨.error f, s, w, rfl, holds⟩

theorem bind {run : Run k σ β} {rest : β → Run k σ α}
    (first : run.Ensures s w fun
      | .ok b, s', w' => (rest b).Ensures s' w' post
      | .error f, s', w' => post (.error f) s' w') :
    Run.Ensures (run >>= rest) s w post := by
  obtain ⟨answer, s', w', ran, holds⟩ := first
  cases answer with
  | ok b =>
    obtain ⟨answer', s'', w'', ran', holds'⟩ := holds
    refine ⟨answer', s'', w'', ?_, holds'⟩
    rw [run_bind, ran]
    exact ran'
  | error f =>
    refine ⟨.error f, s', w', ?_, holds⟩
    rw [run_bind, ran]

theorem tryCatch {run : Run k σ α} {handler : Failure → Run k σ α}
    (first : run.Ensures s w fun
      | .ok a, s', w' => post (.ok a) s' w'
      | .error f, s', w' => (handler f).Ensures s' w' post) :
    Run.Ensures (MonadExcept.tryCatch run handler) s w post := by
  obtain ⟨answer, s', w', ran, holds⟩ := first
  cases answer with
  | ok a =>
    refine ⟨.ok a, s', w', ?_, holds⟩
    rw [run_tryCatch, ran]
  | error f =>
    obtain ⟨answer', s'', w'', ran', holds'⟩ := holds
    refine ⟨answer', s'', w'', ?_, holds'⟩
    rw [run_tryCatch, ran]
    exact ran'

theorem spec {post : Except Failure (Spec k) → Spec k → σ → Prop} (holds : post (.ok s) s w) :
    Run.Ensures Engine.spec s w post :=
  ⟨.ok s, s, w, rfl, holds⟩

theorem modifySpec {post : Except Failure Unit → Spec k → σ → Prop} {f : Spec k → Spec k}
    (holds : post (.ok ()) (f s) w) : Run.Ensures (Engine.modifySpec f) s w post :=
  ⟨.ok (), f s, w, rfl, holds⟩

/-! ## Calls -/

theorem callKeeping {op : Operation} {request : Request σ α} {keep : α → Spec k → Spec k}
    (ok : ∀ a w', request w = (.ok a, w') → post (.ok a) (keep a s) w')
    (error : ∀ e w', request w = (.error e, w') → post (.error (.provider k.label op e)) s w') :
    Run.Ensures (Engine.callKeeping op request keep) s w post := by
  refine ⟨_, _, _, run_callKeeping op request keep s w, ?_⟩
  rcases answered : request w with ⟨answer, w'⟩
  cases answer with
  | ok a => exact ok a w' answered
  | error e => exact error e w' answered

/-- A call to a simulated host is refused by a fault, or written down and answered. -/
theorem enter {w : Simulator k} {post : Except Failure α → Spec k → Simulator k → Prop}
    {c : Call k} {act : Request (Simulator k) α} {keep : α → Spec k → Spec k}
    (fault : ∀ e, w.faults c.operation = some e →
      post (.error (.provider k.label c.operation e)) s (w.struck c))
    (quiet : w.faults c.operation = none →
      Run.Ensures (Engine.callKeeping c.operation act keep) s (w.noted c) post) :
    Run.Ensures (Engine.callKeeping c.operation (Simulator.enter c act) keep) s w post := by
  -- The fault answers in place of the host, before the request is looked at.
  cases pending : w.faults c.operation with
  | some e =>
    refine ⟨_, _, _, run_callKeeping _ _ _ s w, ?_⟩
    rw [Simulator.enter_of_fault pending]
    exact fault e pending
  | none =>
    obtain ⟨answer, s', w', ran, holds⟩ := quiet pending
    refine ⟨answer, s', w', ?_, holds⟩
    rw [run_callKeeping] at ran ⊢
    rw [Simulator.enter_of_quiet pending, ran]

end Run.Ensures

end DesiredState
