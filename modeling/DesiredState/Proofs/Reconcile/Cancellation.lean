import DesiredState.Proofs.Reconcile.Lifecycle
import DesiredState.Proofs.Reconcile.Partial
import DesiredState.Proofs.Reconcile.Trace

/-!
# Cancelled runs

A run that is cancelled between two of its calls did what the same run does up to there when nothing
cancels it: it leaves the host just as the next call would have found it, and fails at that call.  A
run that has no next call is not touched.

The run that nothing cancels is filmed: a gateway notes every call together with the host as the call
finds it.  Both runs go side by side until the token refuses a call.  From there on the one is over,
and of the other only that its film grows is of interest.

Contents:

* `Token.LetsThrough` — when a run is cancelled.
* `Moment`, `Gateway.filmed`, `Engine.filmed` — calls with the hosts that they find.
* `Run.Interrupted` — a run beside the filmed one, with the rules for steps, sequences and calls.
* `Filmed`, `CutAfter` — what a film shows, and what becomes of a cancelled run.
* `cancelled_after` — the main result.
-/

namespace DesiredState

variable {k : Kind} {σ α β : Type}

/-! ## Tokens -/

namespace Token

/-- The token lets this many calls return, whatever they are, and refuses the one after them. -/
def LetsThrough : Nat → Token → Prop
  | 0, t => ∀ op, (t.next op).1 = .refused
  | n + 1, t => ∀ op, (t.next op).1 = .returns ∧ LetsThrough n (t.next op).2

theorem letsThrough_lasting (n : Nat) : LetsThrough n (lasting n) := by
  induction n with
  | zero => exact fun _ => rfl
  | succ n inductionHypothesis => exact fun _ => ⟨rfl, inductionHypothesis⟩

/-- A token that is cancelled from the start lets no call through. -/
theorem letsThrough_of_cancelled {t : Token} (cancelled : t.cancelled = true) : LetsThrough 0 t := by
  intro op
  simp [next, cancelled]

end Token

/-! ## Films -/

/-- A call, and the host as the call finds it. -/
structure Moment (k : Kind) (σ : Type) where
  call : Call k
  world : σ

/-- A host with the moments of a run. -/
abbrev Footage (k : Kind) (σ : Type) := σ × List (Moment k σ)

/-- A request of which the moment is kept. -/
def Request.filmed (c : Call k) (request : Request σ α) : Request (Footage k σ) α :=
  fun (w, film) => ((request w).1, (request w).2, film ++ [⟨c, w⟩])

/-- The same host, but the moment of every call is kept. -/
def Gateway.filmed (g : Gateway k σ) : Gateway k (Footage k σ) where
  presence key := .filmed (.presence key) (g.presence key)
  create s := .filmed (.create s.name) (g.create s)
  get key := .filmed (.get key) (g.get key)
  update s c := .filmed (.update s.identifier c) (g.update s c)
  delete s snapshot := .filmed (.delete s.identifier snapshot) (g.delete s snapshot)
  stop s := .filmed (.stop s.identifier) (g.stop s)
  tag identifier tags := .filmed (.tag identifier tags) (g.tag identifier tags)
  untag identifier keys := .filmed (.untag identifier keys) (g.untag identifier keys)

/-- The same engine over a gateway that keeps the moments of its calls. -/
def Engine.filmed (e : Engine k σ) : Engine k (Footage k σ) := ⟨e.gateway.filmed, e.snapshotStem⟩

/-! ## Side by side -/

/-- A run under a token that lets some calls through, and the filmed run that nothing cancels: both
have made the same calls, and the token lets through what is left of the number. -/
structure InStep (n : Nat) (x : Session k σ) (y : Session k (Footage k σ)) : Prop where
  spec : x.spec = y.spec
  world : x.world = y.world.1
  live : y.token = .live
  left : ∃ left, y.world.2.length + left = n ∧ x.token.LetsThrough left

/-- A run does what the filmed run does, or fails at the call that follows a number of calls in the
film, on the host that this call finds. -/
structure Run.Interrupted (n : Nat) (run : Run k σ α) (filmed : Run k (Footage k σ) α) : Prop where
  grows : ∀ y, y.world.2 <+: (filmed.run y).2.world.2
  ends : ∀ x y, InStep n x y →
    (∃ answer x' y', run.run x = (answer, x') ∧ filmed.run y = (answer, y') ∧ InStep n x' y') ∨
      ∃ front m rest x', (filmed.run y).2.world.2 = front ++ m :: rest ∧ front.length = n ∧
        run.run x = (.error (.cancelled k.label m.call.operation), x') ∧ x'.world = m.world

namespace Run.Interrupted

variable {n : Nat}

theorem pure (a : α) : Interrupted (k := k) (σ := σ) n (Pure.pure a) (Pure.pure a) :=
  ⟨fun _ => List.prefix_rfl, fun x y step => .inl ⟨.ok a, x, y, rfl, rfl, step⟩⟩

theorem throw (f : Failure) :
    Interrupted (k := k) (σ := σ) (α := α) n (MonadExcept.throw f) (MonadExcept.throw f) :=
  ⟨fun _ => List.prefix_rfl, fun x y step => .inl ⟨.error f, x, y, rfl, rfl, step⟩⟩

theorem bind {run : Run k σ β} {filmed : Run k (Footage k σ) β} {rest : β → Run k σ α}
    {rest' : β → Run k (Footage k σ) α} (first : Interrupted n run filmed)
    (second : ∀ b, Interrupted n (rest b) (rest' b)) :
    Interrupted n (run >>= rest) (filmed >>= rest') := by
  have grows : ∀ y, (filmed.run y).2.world.2 <+: ((filmed >>= rest').run y).2.world.2 := by
    intro y
    rw [run_bind]
    rcases filmed.run y with ⟨f | b, y'⟩
    · exact List.prefix_rfl
    · exact (second b).grows y'
  refine ⟨fun y => (first.grows y).trans (grows y), fun x y step => ?_⟩
  rcases first.ends x y step with
    ⟨answer, x', y', ran, ran', step'⟩ | ⟨front, m, back, x', film, length, ran, world⟩
  · rw [run_bind, run_bind, ran, ran']
    cases answer with
    | error f => exact .inl ⟨.error f, x', y', rfl, rfl, step'⟩
    | ok b => exact (second b).ends x' y' step'
  -- The filmed run goes on, but what is in its film stays there.
  · obtain ⟨more, longer⟩ := grows y
    rw [film, List.append_assoc, List.cons_append] at longer
    refine .inr ⟨front, m, back ++ more, x', longer.symm, length, ?_, world⟩
    rw [run_bind, ran]

/-- A handler through which cancellations pass. -/
theorem tryCatch {run : Run k σ α} {filmed : Run k (Footage k σ) α} {handler : Failure → Run k σ α}
    {handler' : Failure → Run k (Footage k σ) α} (first : Interrupted n run filmed)
    (second : ∀ f, Interrupted n (handler f) (handler' f))
    (passes : ∀ f, f.isCancelled = true → handler f = MonadExcept.throw f) :
    Interrupted n (MonadExcept.tryCatch run handler) (MonadExcept.tryCatch filmed handler') := by
  have grows : ∀ y, (filmed.run y).2.world.2 <+:
      ((MonadExcept.tryCatch filmed handler').run y).2.world.2 := by
    intro y
    rw [run_tryCatch]
    rcases filmed.run y with ⟨f | a, y'⟩
    · exact (second f).grows y'
    · exact List.prefix_rfl
  refine ⟨fun y => (first.grows y).trans (grows y), fun x y step => ?_⟩
  rcases first.ends x y step with
    ⟨answer, x', y', ran, ran', step'⟩ | ⟨front, m, back, x', film, length, ran, world⟩
  · rw [run_tryCatch, run_tryCatch, ran, ran']
    cases answer with
    | error f => exact (second f).ends x' y' step'
    | ok a => exact .inl ⟨.ok a, x', y', rfl, rfl, step'⟩
  · obtain ⟨more, longer⟩ := grows y
    rw [film, List.append_assoc, List.cons_append] at longer
    refine .inr ⟨front, m, back ++ more, x', longer.symm, length, ?_, world⟩
    rw [run_tryCatch, ran]
    simp only [passes _ (show Failure.isCancelled (.cancelled k.label m.call.operation) = true from rfl)]
    rfl

theorem read : Interrupted (σ := σ) n (Engine.spec (k := k)) Engine.spec := by
  refine ⟨fun _ => List.prefix_rfl, fun x y step => .inl ⟨.ok x.spec, x, y, rfl, ?_, step⟩⟩
  rw [step.spec]
  rfl

theorem write (f : Spec k → Spec k) :
    Interrupted (σ := σ) n (Engine.modifySpec f) (Engine.modifySpec f) := by
  refine ⟨fun _ => List.prefix_rfl, fun x y step => .inl ⟨.ok (), _, _, rfl, rfl, ?_⟩⟩
  exact ⟨congrArg f step.spec, step.world, step.live, step.left⟩

/-- The token refuses a call when nothing is left of its number, and lets it return otherwise. -/
theorem callKeeping {c : Call k} {request : Request σ α} {keep : α → Spec k → Spec k} :
    Interrupted n (Engine.callKeeping c.operation request keep)
      (Engine.callKeeping c.operation (request.filmed c) keep) := by
  constructor
  · rintro ⟨s, ⟨w, film⟩, token⟩
    rw [run_callKeeping_token]
    rcases token.next c.operation with ⟨fate, token'⟩
    cases fate with
    | refused => exact List.prefix_rfl
    | lost => exact List.prefix_append ..
    | returns => exact List.prefix_append ..
  · rintro ⟨s, w, token⟩ ⟨_, ⟨_, film⟩, _⟩ ⟨rfl, rfl, rfl, left, length, lets⟩
    have length : film.length + left = n := length
    rw [run_callKeeping_token, run_callKeeping]
    rcases next : token.next c.operation with ⟨fate, token'⟩
    cases left with
    | zero =>
      have refused : (token.next c.operation).1 = .refused := lets c.operation
      rw [next] at refused
      cases refused
      exact .inr ⟨film, ⟨c, w⟩, [], ⟨s, w, token'⟩, rfl, length, rfl, rfl⟩
    | succ left =>
      obtain ⟨returns, lets'⟩ :
          (token.next c.operation).1 = .returns ∧ (token.next c.operation).2.LetsThrough left :=
        lets c.operation
      rw [next] at returns lets'
      cases returns
      refine .inl ⟨_, _, _, rfl, rfl, rfl, rfl, rfl, left, ?_, lets'⟩
      simp only [Request.filmed, List.length_append, List.length_singleton]
      omega

theorem parallel (n : Nat) (e : Engine k σ) :
    Engine.Parallel (fun _ => Run.Interrupted n) e e.filmed where
  pure := .pure
  throw := .throw
  bind := .bind
  tryCatch := .tryCatch
  read := .read
  write := .write
  presence key := callKeeping (c := .presence key)
  get key := callKeeping (c := .get key)
  create s := callKeeping (c := .create s.name)
  update s c := callKeeping (c := .update s.identifier c)
  tag identifier tags := callKeeping (c := .tag identifier tags)
  untag identifier keys := callKeeping (c := .untag identifier keys)

theorem sync (n : Nat) (e : Engine k σ) (now : Instant) :
    Run.Interrupted n (e.sync now) (e.filmed.sync now) :=
  (parallel n e).sync now

theorem delete (n : Nat) (e : Engine k σ) : Run.Interrupted n e.delete e.filmed.delete := by
  refine (parallel n e).delete rfl (fun s snapshot => ?_) fun s => ?_
  · exact callKeeping (c := .delete s.identifier snapshot)
  · exact callKeeping (c := .stop s.identifier)

end Run.Interrupted

/-! ## What a film shows -/

/-- A run that nothing cancels, with its film: the moments are those of the calls that the host writes
down, and every call finds a host that has written down the calls before it and no other. -/
structure Filmed (run : Run k (Simulator k) α) (filmed : Run k (Footage k (Simulator k)) α)
    (s : Spec k) (w : Simulator k) (answer : Except Failure α) (s' : Spec k) (w' : Simulator k)
    (film : List (Moment k (Simulator k))) : Prop where
  ran : run.run ⟨s, w, .live⟩ = (answer, ⟨s', w', .live⟩)
  filmed : filmed.run ⟨s, (w, []), .live⟩ = (answer, ⟨s', (w', film), .live⟩)
  journal : w'.journal = w.journal ++ film.map Moment.call
  moments : ∀ front m rest, film = front ++ m :: rest →
    m.world.journal = w.journal ++ front.map Moment.call

/-- What becomes of the run under a token that cancels it after some calls.  Where the film has a
moment after so many, the run fails at the call of this moment and leaves the host of this moment;
where it has none, the run ends as if nothing cancelled it. -/
structure CutAfter (n : Nat) (token : Token) (run : Run k (Simulator k) α) (s : Spec k)
    (w : Simulator k) (answer : Except Failure α) (s' : Spec k) (w' : Simulator k)
    (film : List (Moment k (Simulator k))) : Prop where
  cut : ∀ front m rest, film = front ++ m :: rest → front.length = n → ∃ s'' token',
    run.run ⟨s, w, token⟩ =
      (.error (.cancelled k.label m.call.operation), ⟨s'', m.world, token'⟩)
  whole : film.length ≤ n → ∃ token', run.run ⟨s, w, token⟩ = (answer, ⟨s', w', token'⟩)

/-- The filmed session beside the plain one, whose host had written these calls down before. -/
structure Shows (before : List (Call k)) (x : Session k (Footage k (Simulator k)))
    (y : Session k (Simulator k)) : Prop where
  spec : x.spec = y.spec
  world : x.world.1 = y.world
  live : x.token = .live
  live' : y.token = .live
  journal : x.world.1.journal = before ++ x.world.2.map Moment.call
  moments : ∀ front m rest, x.world.2 = front ++ m :: rest →
    m.world.journal = before ++ front.map Moment.call

theorem Shows.follows {before : List (Call k)} {c : Call k} {request : Request (Simulator k) α}
    (writes : Writes c request) (op : Operation) (keep : α → Spec k → Spec k) :
    Run.Follows (Shows before) (fun _ => False)
      (Engine.callKeeping op (request.filmed c) keep) (Engine.callKeeping op request keep) := by
  rintro ⟨s, ⟨w, film⟩, _⟩ ⟨_, _, _⟩ ⟨rfl, rfl, rfl, rfl, journal, moments⟩
  have journal : w.journal = before ++ film.map Moment.call := journal
  have journal' : (request w).2.journal =
      before ++ (film ++ [(⟨c, w⟩ : Moment k (Simulator k))]).map Moment.call := by
    simp [writes w, journal]
  have moments' : ∀ front m rest, film ++ [⟨c, w⟩] = front ++ m :: rest →
      m.world.journal = before ++ front.map Moment.call := by
    intro front m rest split
    -- The last moment is the one just added; those before it are in the film already.
    cases rest using List.reverseRecOn with
    | nil =>
      obtain ⟨rfl, same⟩ := List.append_inj' split rfl
      cases same
      exact journal
    | append_singleton rest last =>
      rw [← List.cons_append, ← List.append_assoc] at split
      exact moments front m rest (List.append_inj' split rfl).1
  rw [Run.run_callKeeping, Run.run_callKeeping]
  exact .inr ⟨_, _, _, rfl, rfl, rfl, rfl, rfl, rfl, journal', moments'⟩

theorem Engine.simulates_filmed (settings : RunSettings) (clock : Instant)
    (before : List (Call k)) :
    Engine.Simulates (Shows before) (fun _ => False) (settings.engine clock k).filmed
      (settings.engine clock k) where
  spec _ _ shows := shows.spec
  modified f x y shows :=
    ⟨by rw [shows.spec], shows.world, shows.live, shows.live', shows.journal, shows.moments⟩
  cancelled _ := nofun
  presence key := Shows.follows ((journals_gateway k clock).presence key) _ _
  get key := Shows.follows ((journals_gateway k clock).get key) _ _
  create s := Shows.follows ((journals_gateway k clock).create s) _ _
  update s c := Shows.follows ((journals_gateway k clock).update s c) _ _
  tag identifier tags := Shows.follows ((journals_gateway k clock).tag identifier tags) _ _
  untag identifier keys := Shows.follows ((journals_gateway k clock).untag identifier keys) _ _

section Cut

variable {run : Run k (Simulator k) α} {filmed : Run k (Footage k (Simulator k)) α} {s : Spec k}
  {w : Simulator k} {n : Nat} {token : Token}

/-- A run that is filmed truly and interrupted truly is cut where its token refuses the first call. -/
theorem Run.Interrupted.cutAfter (interrupted : run.Interrupted n filmed)
    (shows : Run.Follows (Shows w.journal) (fun _ => False) filmed run)
    (lets : token.LetsThrough n) :
    ∃ answer s' w' film, Filmed run filmed s w answer s' w' film ∧
      CutAfter n token run s w answer s' w' film := by
  have begins : Shows w.journal ⟨s, (w, ([] : List (Moment k (Simulator k)))), .live⟩ ⟨s, w, .live⟩ :=
    ⟨rfl, rfl, rfl, rfl, by simp, by simp⟩
  have step : InStep n ⟨s, w, token⟩ ⟨s, (w, ([] : List (Moment k (Simulator k)))), .live⟩ :=
    ⟨rfl, rfl, rfl, n, Nat.zero_add n, lets⟩
  obtain ⟨_, _, _, ⟨⟩⟩ | ⟨answer, ⟨s', ⟨w', film⟩, _⟩, ⟨_, _, _⟩, shown, ran, rfl, rfl, rfl, rfl,
    journal, moments⟩ := shows _ _ begins
  have filmed : Filmed run filmed s w answer s' w' film := ⟨ran, shown, journal, moments⟩
  refine ⟨answer, s', w', film, filmed, ?_⟩
  rcases interrupted.ends _ _ step with
    ⟨_, ⟨_, _, token'⟩, _, ran', shown', rfl, rfl, live, left, length, -⟩ |
      ⟨front, m, rest, ⟨s'', _, token'⟩, split, length, ran', rfl⟩
  · cases shown.symm.trans shown'
    have length : film.length + left = n := length
    refine ⟨?_, fun _ => ⟨token', ran'⟩⟩
    -- The film has no moment after so many.
    rintro front m rest rfl few
    simp only [List.length_append, List.length_cons] at length
    omega
  · rw [shown] at split
    have split : film = front ++ m :: rest := split
    subst split
    constructor
    · intro front' m' rest' same few
      obtain ⟨fronts, others⟩ := List.append_inj same (length.trans few.symm)
      cases fronts
      cases others
      exact ⟨s'', token', ran'⟩
    · intro few
      simp only [List.length_append, List.length_cons] at few
      omega

end Cut

/-! ## Runs without calls -/

/-- A refused specification is completed, whatever the token is. -/
theorem run_sync_refused {v : ValidationError} {s : Spec k} (refused : s.prepare.2 = .error v)
    (settings : RunSettings) (clock now : Instant) (w : Simulator k) (token : Token) :
    ((settings.engine clock k).sync now).run ⟨s, w, token⟩ =
      (.error (.validation v), ⟨s.prepare.1, w, token⟩) := by
  have yields : ((settings.engine clock k).sync now).Yields ⟨s, w, token⟩ fun answer y =>
      answer = .error (.validation v) ∧ y = ⟨s.prepare.1, w, token⟩ := by
    rw [Engine.sync_eq]
    refine .bind (.prepare (fun v' refused' => ?_) fun accepted => ?_)
    · cases refused.symm.trans refused'
      exact ⟨rfl, rfl⟩
    · cases refused.symm.trans accepted
  exact Prod.ext yields.ends.1 yields.ends.2

/-- A refused policy ends a deletion, whatever the token is. -/
theorem run_delete_refused {e : Engine k σ} {v : ValidationError} {s : Spec k}
    (refused : s.effectivePolicy = .error v) (w : σ) (token : Token) :
    e.delete.run ⟨s, w, token⟩ = (.error (.validation v), ⟨s, w, token⟩) := by
  have yields : e.delete.Yields ⟨s, w, token⟩ fun answer y =>
      answer = .error (.validation v) ∧ y = ⟨s, w, token⟩ := by
    unfold Engine.delete
    refine .bind (.spec ?_)
    simp only [refused]
    exact .throw ⟨rfl, rfl⟩
  exact Prod.ext yields.ends.1 yields.ends.2

/-- A resource is skipped whatever the token is. -/
theorem run_delete_skipped {e : Engine k σ} {policy : DeletionPolicy} {reason : SkipReason}
    {s : Spec k} (allowed : s.effectivePolicy = .ok policy)
    (skipped : DeleteAction.resolve policy (e.deletionContext s) = .skip reason) (w : σ)
    (token : Token) : e.delete.run ⟨s, w, token⟩ = (.ok (.skip reason), ⟨s, w, token⟩) := by
  have yields : e.delete.Yields ⟨s, w, token⟩ fun answer y =>
      answer = .ok (.skip reason) ∧ y = ⟨s, w, token⟩ := by
    unfold Engine.delete
    refine .bind (.spec ?_)
    simp only [allowed, skipped]
    exact .bind (.pure (.pure ⟨rfl, rfl⟩))
  exact Prod.ext yields.ends.1 yields.ends.2

/-! ## The main result -/

/-- A sync or a deletion that is cancelled after some calls leaves the host that the uncancelled run
has after as many, and fails at the call that the uncancelled run makes next; if that makes no further
call, both end alike.  A refused specification or policy and a skipped resource need no call, so there
the token does not matter. -/
theorem cancelled_after (settings : RunSettings) (clock now : Instant) (s : Spec k)
    (w : Simulator k) {n : Nat} {token : Token} (lets : token.LetsThrough n) :
    let e := settings.engine clock k
    (∃ answer s' w' film, Filmed (e.sync now) (e.filmed.sync now) s w answer s' w' film ∧
        CutAfter n token (e.sync now) s w answer s' w' film) ∧
      (∃ answer s' w' film, Filmed e.delete e.filmed.delete s w answer s' w' film ∧
        CutAfter n token e.delete s w answer s' w' film) ∧
      (∀ v, s.prepare.2 = .error v →
        (e.sync now).run ⟨s, w, token⟩ = (.error (.validation v), ⟨s.prepare.1, w, token⟩)) ∧
      (∀ v, s.effectivePolicy = .error v →
        e.delete.run ⟨s, w, token⟩ = (.error (.validation v), ⟨s, w, token⟩)) ∧
      ∀ policy reason, s.effectivePolicy = .ok policy →
        DeleteAction.resolve policy (e.deletionContext s) = .skip reason →
        e.delete.run ⟨s, w, token⟩ = (.ok (.skip reason), ⟨s, w, token⟩) := by
  have sim := Engine.simulates_filmed (k := k) settings clock w.journal
  have shows : Run.Follows (Shows w.journal) (fun _ => False)
      (settings.engine clock k).filmed.delete (settings.engine clock k).delete := by
    refine sim.parallel.delete rfl (fun s snapshot => ?_) fun s => ?_
    · exact Shows.follows ((journals_gateway k clock).delete s snapshot) _ _
    · exact Shows.follows ((journals_gateway k clock).stop s) _ _
  intro e
  refine ⟨?_, ?_, fun v refused => ?_, fun v refused => ?_, fun policy reason allowed skipped => ?_⟩
  · exact (Run.Interrupted.sync n e now).cutAfter (sim.sync now) lets
  · exact (Run.Interrupted.delete n e).cutAfter shows lets
  · exact run_sync_refused refused settings clock now w token
  · exact run_delete_refused refused w token
  · exact run_delete_skipped allowed skipped w token

/-- Cancelled after the table was found and read, a sync fails at the update that switches continuous
backups on; a token that was cancelled before would have refused the first call.  When nothing cancels it, this update fails as well, but there it costs a warning only. -/
theorem cancelled_after_reading :
    (Token.lasting 2).LetsThrough 2 ∧ Token.stopped.LetsThrough 0 ∧
      (Sample.backing.1.toOption.map fun o => o.warnings.map Warning.step) =
        some ["PointInTimeRecovery(true)"] ∧
      ∃ s' w' token', ((({} : RunSettings).engine .epoch .table).sync .epoch).run
          ⟨Sample.backed, Sample.unsteady, .lasting 2⟩ =
            (.error (.cancelled Kind.table.label .update), ⟨s', w', token'⟩) ∧
        w'.journal = [.presence "events", .get "events"] := by
  refine ⟨Token.letsThrough_lasting 2, Token.letsThrough_of_cancelled rfl, by decide, ?_⟩
  obtain ⟨⟨answer, s', w', film, filmed, cut⟩, -⟩ := cancelled_after {} .epoch .epoch Sample.backed
    Sample.unsteady (Token.letsThrough_lasting 2)
  have ran : Sample.backing.2.world = w' := congrArg (·.2.world) filmed.ran
  have calls : film.map Moment.call = [.presence "events", .get "events",
      .update "table-0" (.pointInTimeRecovery true), .tag "table-0" Sample.backed.shared.tags] := by
    have journal : w'.journal = film.map Moment.call := filmed.journal
    rw [← journal, ← ran]
    decide
  -- The third moment of the film is the update.
  obtain ⟨first, film, rfl, isFirst, calls⟩ := List.map_eq_cons_iff.mp calls
  obtain ⟨second, film, rfl, isSecond, calls⟩ := List.map_eq_cons_iff.mp calls
  obtain ⟨third, film, rfl, isThird, -⟩ := List.map_eq_cons_iff.mp calls
  obtain ⟨s'', token', cancelled⟩ := cut.cut [first, second] third film rfl rfl
  refine ⟨s'', third.world, token', ?_, ?_⟩
  · rw [cancelled, isThird]
    rfl
  · rw [filmed.moments [first, second] third film rfl, List.map_cons, List.map_cons, List.map_nil,
      isFirst, isSecond]
    rfl

end DesiredState
