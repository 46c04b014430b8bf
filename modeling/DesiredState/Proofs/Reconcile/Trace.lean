import DesiredState.Proofs.Reconcile.Simulation

/-!
# Traces

A simulated host writes down the calls that are made to it, but not what it answers.  Here a gateway
records both, and it is shown that recording changes nothing: a sync does the same with and without
it, and the calls that are recorded are those that the host writes down.

Contents:

* `Reply`, `Event` — answers, and calls with their answers.
* `Gateway.traced`, `Engine.traced` — the gateway that records, and an engine that uses it.
* `Gateway.Journals`, `journals_gateway` — a simulated host writes down every call.
* `run_sync_traced` — recording changes nothing.
* `Run.Tells` — the calls of a run, with the rules for sequences.
-/

namespace DesiredState

variable {k : Kind} {σ α β : Type}

/-- What a call was answered. -/
inductive Reply (k : Kind)
  | present
  | absent
  | read (current : HostedOf k)
  | done
  | failed (error : GatewayError)

/-- A call and its answer. -/
structure Event (k : Kind) where
  call : Call k
  reply : Reply k

/-- The answer to a request as it is recorded. -/
def Reply.ofAnswer (reply : α → Reply k) : Except GatewayError α → Reply k
  | .ok a => reply a
  | .error e => .failed e

/-- A request that is recorded. -/
def Request.traced (c : Call k) (reply : α → Reply k) (request : Request σ α) :
    Request (σ × List (Event k)) α := fun (w, events) =>
  ((request w).1, (request w).2, events ++ [⟨c, .ofAnswer reply (request w).1⟩])

/-- The same host, but every call is recorded with its answer. -/
def Gateway.traced (g : Gateway k σ) : Gateway k (σ × List (Event k)) where
  presence key := .traced (.presence key) (fun there => if there then .present else .absent)
    (g.presence key)
  create s := .traced (.create s.name) (fun _ => .done) (g.create s)
  get key := .traced (.get key) .read (g.get key)
  update s c := .traced (.update s.identifier c) (fun _ => .done) (g.update s c)
  delete s snapshot := .traced (.delete s.identifier snapshot) (fun _ => .done) (g.delete s snapshot)
  stop s := .traced (.stop s.identifier) (fun _ => .done) (g.stop s)
  tag identifier tags := .traced (.tag identifier tags) (fun _ => .done) (g.tag identifier tags)
  untag identifier keys := .traced (.untag identifier keys) (fun _ => .done)
    (g.untag identifier keys)

/-- The same engine over a gateway that records. -/
def Engine.traced (e : Engine k σ) : Engine k (σ × List (Event k)) := ⟨e.gateway.traced, e.snapshotStem⟩

/-! ## Recording changes nothing -/

/-- A request that writes down one call. -/
def Writes (c : Call k) (request : Request (Simulator k) α) : Prop :=
  ∀ w, (request w).2.journal = w.journal ++ [c]

theorem writes_enter {c : Call k} {act : Request (Simulator k) α}
    (silent : ∀ w, (act w).2.journal = w.journal) : Writes c (Simulator.enter c act) := by
  intro w
  cases pending : w.faults c.operation with
  | some e => rw [Simulator.enter_of_fault pending]; rfl
  | none => rw [Simulator.enter_of_quiet pending, silent]; rfl

theorem journal_modifyHosted (identifier : String)
    (f : HostedOf k → Except GatewayError (HostedOf k)) (w : Simulator k) :
    (Simulator.modifyHosted identifier f w).2.journal = w.journal := by
  unfold Simulator.modifyHosted
  split
  · rfl
  · split <;> rfl

theorem journal_host (clock : Instant) (s : Spec k) (w : Simulator k) :
    (Simulator.host clock s w).2.journal = w.journal := by
  unfold Simulator.host
  split <;> rfl

/-- Every request to a gateway writes down its call. -/
structure Gateway.Journals (g : Gateway k (Simulator k)) : Prop where
  presence : ∀ key, Writes (.presence key) (g.presence key)
  create : ∀ s, Writes (.create s.name) (g.create s)
  get : ∀ key, Writes (.get key) (g.get key)
  update : ∀ s c, Writes (.update s.identifier c) (g.update s c)
  delete : ∀ s snapshot, Writes (.delete s.identifier snapshot) (g.delete s snapshot)
  stop : ∀ s, Writes (.stop s.identifier) (g.stop s)
  tag : ∀ identifier tags, Writes (.tag identifier tags) (g.tag identifier tags)
  untag : ∀ identifier keys, Writes (.untag identifier keys) (g.untag identifier keys)

theorem journals_gateway (k : Kind) (clock : Instant) : (Simulator.gateway k clock).Journals where
  presence _ := writes_enter fun _ => rfl
  create s := writes_enter (journal_host clock s)
  get _ := writes_enter fun w => by split <;> rfl
  update _ _ := writes_enter (journal_modifyHosted _ _)
  delete _ _ := writes_enter fun _ => rfl
  stop _ := writes_enter (journal_modifyHosted _ _)
  tag _ _ := writes_enter (journal_modifyHosted _ _)
  untag _ _ := writes_enter (journal_modifyHosted _ _)

/-- The session without its record, which holds the calls written down since the beginning. -/
structure Records (before : List (Call k)) (x : Session k (Simulator k × List (Event k)))
    (y : Session k (Simulator k)) : Prop where
  spec : x.spec = y.spec
  world : x.world.1 = y.world
  token : x.token = y.token
  journal : x.world.1.journal = before ++ x.world.2.map Event.call

theorem Records.follows {before : List (Call k)} {c : Call k} {reply : α → Reply k}
    {request : Request (Simulator k) α} (writes : Writes c request) (op : Operation)
    (keep : α → Spec k → Spec k) :
    Run.Follows (Records before) (fun _ => False)
      (Engine.callKeeping op (Request.traced c reply request) keep)
      (Engine.callKeeping op request keep) := by
  rintro ⟨s, ⟨w, events⟩, token⟩ ⟨_, _, _⟩ ⟨rfl, rfl, rfl, journal⟩
  have journal' : (request w).2.journal =
      before ++ (events ++ [(⟨c, .ofAnswer reply (request w).1⟩ : Event k)]).map Event.call := by
    have journal : w.journal = before ++ events.map Event.call := journal
    rw [writes, journal]
    simp
  rw [Run.run_callKeeping_token, Run.run_callKeeping_token]
  rcases token.next op with ⟨fate, token'⟩
  -- A refused call is not made, so neither side writes anything down.
  cases fate with
  | refused => exact .inr ⟨_, _, _, rfl, rfl, rfl, rfl, rfl, journal⟩
  | lost => exact .inr ⟨_, _, _, rfl, rfl, rfl, rfl, rfl, journal'⟩
  | returns => exact .inr ⟨_, _, _, rfl, rfl, rfl, rfl, rfl, journal'⟩

theorem Engine.simulates_traced (settings : RunSettings) (clock : Instant)
    (before : List (Call k)) :
    Engine.Simulates (Records before) (fun _ => False) (settings.engine clock k).traced
      (settings.engine clock k) where
  spec _ _ records := records.spec
  modified f x y records := ⟨by rw [records.spec], records.world, records.token, records.journal⟩
  cancelled _ := nofun
  presence key := Records.follows ((journals_gateway k clock).presence key) _ _
  get key := Records.follows ((journals_gateway k clock).get key) _ _
  create s := Records.follows ((journals_gateway k clock).create s) _ _
  update s c := Records.follows ((journals_gateway k clock).update s c) _ _
  tag identifier tags := Records.follows ((journals_gateway k clock).tag identifier tags) _ _
  untag identifier keys := Records.follows ((journals_gateway k clock).untag identifier keys) _ _

/-- A sync is the same with and without a record, and the record holds the calls that it makes. -/
theorem run_sync_traced (settings : RunSettings) (clock now : Instant) (s : Spec k) (w : Simulator k)
    (token : Token) :
    ∃ answer s' w' token' events,
      ((settings.engine clock k).sync now).run ⟨s, w, token⟩ = (answer, ⟨s', w', token'⟩) ∧
        ((settings.engine clock k).traced.sync now).run ⟨s, (w, []), token⟩ =
          (answer, ⟨s', (w', events), token'⟩) ∧
        w'.journal = w.journal ++ events.map Event.call := by
  have begins : Records w.journal ⟨s, (w, ([] : List (Event k))), token⟩ ⟨s, w, token⟩ :=
    ⟨rfl, rfl, rfl, by simp⟩
  -- No run is lost on the way, so only the second case is left.
  rcases (Engine.simulates_traced settings clock w.journal).sync now _ _ begins with
    ⟨_, _, _, ⟨⟩⟩ | ⟨answer, ⟨s', ⟨w', events⟩, token'⟩, ⟨_, _, _⟩, traced, ran, rfl, rfl, rfl, journal⟩
  exact ⟨answer, s', w', token', events, ran, traced, journal⟩

/-! ## What a run tells -/

/-- Over a gateway that records, a run ends in a certain way after certain calls. -/
def Run.Tells (run : Run k (σ × List (Event k)) α) (s : Spec k)
    (post : Except Failure α → Spec k → List (Event k) → Prop) : Prop :=
  ∀ w events, run.Ensures s (w, events) fun answer s' w' =>
    ∃ more, w'.2 = events ++ more ∧ post answer s' more

namespace Run.Tells

variable {s : Spec k} {post : Except Failure α → Spec k → List (Event k) → Prop}

theorem pure {a : α} (holds : post (.ok a) s []) :
    Run.Tells (σ := σ) (Pure.pure a) s post :=
  fun _ _ => .pure ⟨[], by simp, holds⟩

theorem throw {f : Failure} (holds : post (.error f) s []) :
    Run.Tells (σ := σ) (MonadExcept.throw f) s post :=
  fun _ _ => .throw ⟨[], by simp, holds⟩

theorem bind {run : Run k (σ × List (Event k)) β} {rest : β → Run k (σ × List (Event k)) α}
    (first : run.Tells s fun
      | .ok b, s', more => (rest b).Tells s' fun answer s'' more' => post answer s'' (more ++ more')
      | .error f, s', more => post (.error f) s' more) :
    Run.Tells (run >>= rest) s post := by
  intro w events
  refine .bind ((first w events).mono ?_)
  rintro (f | b) s' ⟨w', events'⟩ ⟨more, rfl, holds⟩
  · exact ⟨more, rfl, holds⟩
  · refine (holds w' (events ++ more)).mono ?_
    rintro answer s'' ⟨w'', events''⟩ ⟨more', rfl, holds'⟩
    exact ⟨more ++ more', List.append_assoc .., holds'⟩

theorem tryCatch {run : Run k (σ × List (Event k)) α}
    {handler : Failure → Run k (σ × List (Event k)) α}
    (first : run.Tells s fun
      | .ok a, s', more => post (.ok a) s' more
      | .error f, s', more =>
        (handler f).Tells s' fun answer s'' more' => post answer s'' (more ++ more')) :
    Run.Tells (MonadExcept.tryCatch run handler) s post := by
  intro w events
  refine .tryCatch ((first w events).mono ?_)
  rintro (f | a) s' ⟨w', events'⟩ ⟨more, rfl, holds⟩
  · refine (holds w' (events ++ more)).mono ?_
    rintro answer s'' ⟨w'', events''⟩ ⟨more', rfl, holds'⟩
    exact ⟨more ++ more', List.append_assoc .., holds'⟩
  · exact ⟨more, rfl, holds⟩

theorem spec {post : Except Failure (Spec k) → Spec k → List (Event k) → Prop}
    (holds : post (.ok s) s []) : Run.Tells (σ := σ) Engine.spec s post :=
  fun _ _ => .spec ⟨[], by simp, holds⟩

theorem modifySpec {post : Except Failure Unit → Spec k → List (Event k) → Prop}
    {f : Spec k → Spec k} (holds : post (.ok ()) (f s) []) :
    Run.Tells (σ := σ) (Engine.modifySpec f) s post :=
  fun _ _ => .modifySpec ⟨[], by simp, holds⟩

theorem callKeeping {op : Operation} {c : Call k} {reply : α → Reply k} {request : Request σ α}
    {keep : α → Spec k → Spec k}
    (ok : ∀ w a w', request w = (.ok a, w') → post (.ok a) (keep a s) [⟨c, reply a⟩])
    (error : ∀ error, post (.error (.provider k.label op error)) s [⟨c, .failed error⟩]) :
    Run.Tells (Engine.callKeeping op (Request.traced c reply request) keep) s post := by
  intro w events
  rcases answered : request w with ⟨answer, w'⟩
  apply Ensures.callKeeping
  · rintro a w'' traced
    simp only [Request.traced, answered] at traced
    obtain ⟨rfl, rfl⟩ := Prod.mk.inj traced
    exact ⟨_, rfl, ok w a w' answered⟩
  · rintro e w'' traced
    simp only [Request.traced, answered] at traced
    obtain ⟨rfl, rfl⟩ := Prod.mk.inj traced
    exact ⟨_, rfl, error e⟩

theorem call {op : Operation} {c : Call k} {reply : α → Reply k} {request : Request σ α}
    (ok : ∀ a, post (.ok a) s [⟨c, reply a⟩])
    (error : ∀ error, post (.error (.provider k.label op error)) s [⟨c, .failed error⟩]) :
    Run.Tells (Engine.call op (Request.traced c reply request)) s post :=
  callKeeping (fun _ a _ _ => ok a) error

end Run.Tells

end DesiredState
