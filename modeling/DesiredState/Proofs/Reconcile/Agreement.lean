import DesiredState.Fleet.Run
import DesiredState.Proofs.Host.Faults
import DesiredState.Proofs.Host.Titles
import DesiredState.Proofs.Reconcile.Ensures
import DesiredState.Proofs.Resource.Settled

/-!
# Runs that agree

Two hosts can differ in much and still look the same to one run: it finds resources by their titles
and reads and changes one of them.  Here two runs are followed at once, from sessions that stand
beside each other in this sense, whatever the token and the faults are.  They answer alike, and each
of them touches nothing but that one resource.

Contents:

* `Run.Agrees` — two runs answer alike and end in a certain way, with a rule for each construct.
* `Beside`, `Tends`, `Abreast` — sessions beside each other, and what a run does to one of them.
* `presence`, `get`, `modified` — the rules of the calls to simulated hosts.
-/

namespace DesiredState

variable {k : Kind} {σ α β : Type}

/-- From two sessions, two runs answer alike and end in a certain way. -/
def Run.Agrees (run run' : Run k σ α) (x x' : Session k σ)
    (post : Except Failure α → Session k σ → Session k σ → Prop) : Prop :=
  ∃ answer y y', run.run x = (answer, y) ∧ run'.run x' = (answer, y') ∧ post answer y y'

namespace Run.Agrees

variable {x x' : Session k σ} {post : Except Failure α → Session k σ → Session k σ → Prop}

theorem mono {run run' : Run k σ α}
    {post' : Except Failure α → Session k σ → Session k σ → Prop}
    (agrees : run.Agrees run' x x' post)
    (weaker : ∀ answer y y', post answer y y' → post' answer y y') :
    run.Agrees run' x x' post' := by
  obtain ⟨answer, y, y', ran, ran', holds⟩ := agrees
  exact ⟨answer, y, y', ran, ran', weaker answer y y' holds⟩

theorem pure {a : α} (holds : post (.ok a) x x') :
    Run.Agrees (Pure.pure a) (Pure.pure a) x x' post :=
  ⟨.ok a, x, x', rfl, rfl, holds⟩

theorem throw {f : Failure} (holds : post (.error f) x x') :
    Run.Agrees (MonadExcept.throw f) (MonadExcept.throw f) x x' post :=
  ⟨.error f, x, x', rfl, rfl, holds⟩

theorem bind {run run' : Run k σ β} {rest rest' : β → Run k σ α}
    (first : run.Agrees run' x x' fun
      | .ok b, y, y' => (rest b).Agrees (rest' b) y y' post
      | .error f, y, y' => post (.error f) y y') :
    Run.Agrees (run >>= rest) (run' >>= rest') x x' post := by
  obtain ⟨answer, y, y', ran, ran', holds⟩ := first
  rw [Agrees, run_bind, run_bind, ran, ran']
  cases answer with
  | ok b => exact holds
  | error f => exact ⟨.error f, y, y', rfl, rfl, holds⟩

theorem tryCatch {run run' : Run k σ α} {handler handler' : Failure → Run k σ α}
    (first : run.Agrees run' x x' fun
      | .ok a, y, y' => post (.ok a) y y'
      | .error f, y, y' => (handler f).Agrees (handler' f) y y' post) :
    Run.Agrees (MonadExcept.tryCatch run handler) (MonadExcept.tryCatch run' handler') x x'
      post := by
  obtain ⟨answer, y, y', ran, ran', holds⟩ := first
  rw [Agrees, run_tryCatch, run_tryCatch, ran, ran']
  cases answer with
  | ok a => exact ⟨.ok a, y, y', rfl, rfl, holds⟩
  | error f => exact holds

theorem spec {post : Except Failure (Spec k) → Session k σ → Session k σ → Prop}
    (same : x'.spec = x.spec) (holds : post (.ok x.spec) x x') :
    Run.Agrees Engine.spec Engine.spec x x' post :=
  ⟨.ok x.spec, x, x', rfl, congrArg (fun s => (Except.ok s, x')) same, holds⟩

theorem modifySpec {post : Except Failure Unit → Session k σ → Session k σ → Prop}
    {f f' : Spec k → Spec k}
    (holds : post (.ok ()) { x with spec := f x.spec } { x' with spec := f' x'.spec }) :
    Run.Agrees (Engine.modifySpec f) (Engine.modifySpec f') x x' post :=
  ⟨.ok (), _, _, rfl, rfl, holds⟩

end Run.Agrees

/-! ## Sessions beside each other -/

/-- Two sessions are the same to a run that reads and changes nothing but one resource. -/
structure Beside (key : String) (x x' : Session k (Simulator k)) : Prop where
  spec : x'.spec = x.spec
  token : x'.token = x.token
  faults : x'.world.faults = x.world.faults
  titles : ∀ key', titleAt x'.world.hosted key' = titleAt x.world.hosted key'
  there : x'.world.hosted.get? key = x.world.hosted.get? key

/-- The identifier of the specification leads to the resource under this key. -/
structure Aims (key : String) (x : Session k (Simulator k)) : Prop where
  known : x.spec.identifier ≠ ""
  found : Host.find? x.world.hosted x.spec.identifier = some key

/-- What a run does that changes nothing but one resource, and not its title either. -/
structure Tends (key : String) (x y : Session k (Simulator k)) : Prop where
  intent : y.spec.intent = x.spec.intent
  /-- An identifier that leads to the resource stays. -/
  kept : Aims key x → y.spec.identifier = x.spec.identifier
  tended : Tended key x.world.hosted y.world.hosted
  serial : y.world.serial = x.world.serial
  spent : Spent x.world y.world
  live : x.token = .live → y.token = .live

/-- Two runs have answered alike: the first of them changed nothing but one resource, and they have
come to sessions beside each other.  What nothing cancels is not cancelled. -/
structure Abreast (key : String) (x : Session k (Simulator k)) (answer : Except Failure α)
    (y y' : Session k (Simulator k)) : Prop where
  tends : Tends key x y
  beside : Beside key y y'
  heeded : x.token = .live → ∀ f, answer = .error f → f.isCancelled = false

section

variable {key text : String} {x x' y y' z z' : Session k (Simulator k)}

theorem Beside.refl (key : String) (x : Session k (Simulator k)) : Beside key x x :=
  ⟨rfl, rfl, rfl, fun _ => rfl, rfl⟩

theorem Beside.symm (beside : Beside key x x') : Beside key x' x :=
  ⟨beside.spec.symm, beside.token.symm, beside.faults.symm, fun key' => (beside.titles key').symm,
    beside.there.symm⟩

theorem Beside.find?_eq (beside : Beside key x x') (text : String) :
    Host.find? x'.world.hosted text = Host.find? x.world.hosted text :=
  Host.find?_congr beside.titles text

theorem Beside.modifySpec (beside : Beside key x x') (f : Spec k → Spec k) :
    Beside key { x with spec := f x.spec } { x' with spec := f x'.spec } :=
  ⟨congrArg f beside.spec, beside.token, beside.faults, beside.titles, beside.there⟩

theorem Aims.respec (aims : Aims key x) {s : Spec k} (same : s.identifier = x.spec.identifier) :
    Aims key { x with spec := s } :=
  ⟨same ▸ aims.known, (congrArg (Host.find? x.world.hosted) same).trans aims.found⟩

theorem Tends.refl (key : String) (x : Session k (Simulator k)) : Tends key x x :=
  ⟨rfl, fun _ => rfl, .refl key _, rfl, .refl _, id⟩

theorem Tends.find?_eq (tends : Tends key x y) (text : String) :
    Host.find? y.world.hosted text = Host.find? x.world.hosted text :=
  Host.find?_congr tends.tended.titles text

theorem Tends.aims (tends : Tends key x y) (aims : Aims key x) : Aims key y where
  known := tends.kept aims ▸ aims.known
  found := by rw [tends.kept aims, tends.find?_eq, aims.found]

theorem Tends.trans (first : Tends key x y) (second : Tends key y z) : Tends key x z where
  intent := second.intent.trans first.intent
  kept aims := (second.kept (first.aims aims)).trans (first.kept aims)
  tended := first.tended.trans second.tended
  serial := second.serial.trans first.serial
  spent := first.spent.trans second.spent
  live live := second.live (first.live live)

theorem Abreast.trans {b : β} {answer : Except Failure α}
    (first : Abreast key x (.ok b : Except Failure β) y y') (second : Abreast key y answer z z') :
    Abreast key x answer z z' :=
  ⟨first.tends.trans second.tends, second.beside,
    fun live => second.heeded (first.tends.live live)⟩

/-- An answer is no failure. -/
theorem Abreast.ok {answer : Except Failure β} {a : α} (abreast : Abreast key x answer y y') :
    Abreast key x (.ok a : Except Failure α) y y' :=
  ⟨abreast.tends, abreast.beside, fun _ _ => nofun⟩

theorem Abreast.error {f : Failure} (abreast : Abreast key x (.error f : Except Failure β) y y') :
    Abreast key x (.error f : Except Failure α) y y' :=
  ⟨abreast.tends, abreast.beside, fun live _ same =>
    abreast.heeded live _ (congrArg Except.error (Except.error.inj same))⟩

theorem Abreast.refl {a : α} (beside : Beside key x x') :
    Abreast key x (.ok a : Except Failure α) x x' :=
  ⟨.refl key x, beside, fun _ _ => nofun⟩

/-- What is known of the resource may change without any call. -/
theorem Abreast.respec {answer : Except Failure β} {a : α} (abreast : Abreast key x answer y y')
    (f : Spec k → Spec k) (intent : (f y.spec).intent = y.spec.intent)
    (kept : Aims key y → (f y.spec).identifier = y.spec.identifier) :
    Abreast key x (.ok a : Except Failure α) { y with spec := f y.spec }
      { y' with spec := f y'.spec } where
  tends := abreast.tends.trans ⟨intent, kept, .refl key _, rfl, .refl _, id⟩
  beside := abreast.beside.modifySpec f
  heeded _ _ := nofun

end

/-! ## Calls -/

/-- On two hosts a request does the same as far as one resource is concerned, and nothing else. -/
structure Acts (key : String) (act : Request (Simulator k) α) (w w' : Simulator k) : Prop where
  answer : (act w').1 = (act w).1
  there : (act w').2.hosted.get? key = (act w).2.hosted.get? key
  tended : Tended key w.hosted (act w).2.hosted
  tended' : Tended key w'.hosted (act w').2.hosted
  serial : (act w).2.serial = w.serial
  spent : Spent w (act w).2
  faults : w'.faults = w.faults → (act w').2.faults = (act w).2.faults

namespace Acts

variable {key text : String} {w w' : Simulator k}

/-- A fault refuses a request to either host. -/
theorem enter {c : Call k} {act : Request (Simulator k) α} (faults : w'.faults = w.faults)
    (there : w'.hosted.get? key = w.hosted.get? key)
    (acts : Acts key act (w.noted c) (w'.noted c)) : Acts key (Simulator.enter c act) w w' := by
  cases pending : w.faults c.operation with
  | some e =>
    have pending' : w'.faults c.operation = some e := by rw [faults, pending]
    have refused : Simulator.enter c act w = _ := Simulator.enter_of_fault pending
    have refused' : Simulator.enter c act w' = _ := Simulator.enter_of_fault pending'
    refine ⟨?_, ?_, ?_, ?_, ?_, ?_, fun _ => ?_⟩ <;> simp only [refused, refused']
    · exact there
    · exact .refl key _
    · exact .refl key _
    · rfl
    · exact (struck_struck pending).spent
    · simp only [Simulator.struck, faults]
  | none =>
    have pending' : w'.faults c.operation = none := by rw [faults, pending]
    have entered : Simulator.enter c act w = _ := Simulator.enter_of_quiet pending
    have entered' : Simulator.enter c act w' = _ := Simulator.enter_of_quiet pending'
    refine ⟨?_, ?_, ?_, ?_, ?_, ?_, ?_⟩ <;> simp only [entered, entered']
    · exact acts.answer
    · exact acts.there
    · exact acts.tended
    · exact acts.tended'
    · exact acts.serial
    · exact acts.spent
    · exact acts.faults

/-- A request that changes nothing. -/
theorem ask {act : Request (Simulator k) α} (there : w'.hosted.get? key = w.hosted.get? key)
    (answer : (act w').1 = (act w).1) (idle : ∀ w, (act w).2 = w) : Acts key act w w' := by
  refine ⟨answer, ?_, ?_, ?_, ?_, ?_, ?_⟩ <;> simp only [idle]
  · exact there
  · exact .refl key _
  · exact .refl key _
  · exact .refl w
  · exact id

/-- A change of one resource, addressed to it or to nothing that is hosted. -/
theorem modifyHosted {identifier : String} {f : HostedOf k → HostedOf k}
    (kept : ∀ h, (f h).title = h.title)
    (titles : ∀ key', titleAt w'.hosted key' = titleAt w.hosted key')
    (there : w'.hosted.get? key = w.hosted.get? key)
    (aimed : Host.find? w.hosted identifier = some key) :
    Acts key (Simulator.modifyHosted identifier fun h => .ok (f h)) w w' := by
  cases found : w.hosted.get? identifier with
  | none =>
    -- Whatever has the identifier as its name does not stand under it, on neither host.
    have found' : w'.hosted.get? identifier = none := by
      have title := titles identifier
      rw [titleAt, titleAt, found] at title
      exact Option.map_eq_none_iff.mp title
    refine ⟨?_, ?_, ?_, ?_, ?_, ?_, ?_⟩ <;> simp only [Simulator.modifyHosted, found, found']
    · exact there
    · exact .refl key _
    · exact .refl key _
    · exact .refl w
    · exact id
  | some h =>
    obtain rfl : identifier = key := by
      rw [Host.find?_of_contains (Dict.contains_iff.mpr ⟨h, found⟩)] at aimed
      exact Option.some.inj aimed
    have found' : w'.hosted.get? identifier = some h := there.trans found
    refine ⟨?_, ?_, ?_, ?_, ?_, ?_, ?_⟩ <;> simp only [Simulator.modifyHosted, found, found']
    · rw [Dict.get?_insert_self, Dict.get?_insert_self]
    · exact .insert found (kept h)
    · exact .insert found' (kept h)
    · exact .of_eq rfl
    · exact id

end Acts

namespace Run.Agrees

variable {settings settings' : RunSettings} {clock clock' : Instant} {key text : String}
  {x x' : Session k (Simulator k)}

/-- A request that is made has the same answer from both hosts, if it is not cancelled. -/
theorem call {post : Except Failure α → Session k (Simulator k) → Session k (Simulator k) → Prop}
    {op : Operation} {act : Request (Simulator k) α} (beside : Beside key x x')
    (acts : Acts key act x.world x'.world)
    (ends : ∀ answer y y', Abreast key x answer y y' →
      (∀ a, answer = .ok a → (act x.world).1 = .ok a) → y.spec = x.spec → post answer y y') :
    Run.Agrees (Engine.call op act) (Engine.call op act) x x' post := by
  obtain ⟨s, w, token⟩ := x
  obtain ⟨s', w', token'⟩ := x'
  obtain ⟨same, sameToken, faults, titles, there⟩ := beside
  dsimp only at same sameToken faults titles there acts ends
  subst same sameToken
  -- Whatever becomes of the call, the sessions end beside each other.
  have still {answer : Except Failure α} {t : Token} (live : token' = .live → t = .live)
      (heeded : token' = .live → ∀ f, answer = .error f → f.isCancelled = false) :
      Abreast key ⟨s', w, token'⟩ answer ⟨s', w, t⟩ ⟨s', w', t⟩ :=
    ⟨⟨rfl, fun _ => rfl, .refl key _, rfl, .refl _, live⟩,
      ⟨rfl, rfl, faults, titles, there⟩, heeded⟩
  have made {answer : Except Failure α} {t : Token} (live : token' = .live → t = .live)
      (heeded : token' = .live → ∀ f, answer = .error f → f.isCancelled = false) :
      Abreast key ⟨s', w, token'⟩ answer ⟨s', (act w).2, t⟩ ⟨s', (act w').2, t⟩ := by
    refine ⟨⟨rfl, fun _ => rfl, acts.tended, acts.serial, acts.spent, live⟩,
      ⟨rfl, rfl, acts.faults faults, fun key' => ?_, acts.there⟩, heeded⟩
    rw [acts.tended'.titles, acts.tended.titles, titles]
  have unlearnt (r : Except GatewayError α) : Engine.kept (fun _ s => s) r s' = s' := by
    cases r <;> rfl
  rw [Agrees, Engine.call, run_callKeeping_token, run_callKeeping_token, unlearnt, unlearnt,
    acts.answer]
  rcases next : token'.next op with ⟨fate, t⟩
  have live : token' = .live → fate = .returns ∧ t = .live := by
    rintro rfl
    exact ⟨(congrArg Prod.fst next).symm, (congrArg Prod.snd next).symm⟩
  have lives alive := (live alive).2
  cases fate with
  | refused =>
    exact ⟨_, _, _, rfl, rfl, ends _ _ _ (still lives fun alive => nomatch (live alive).1)
      (fun _ => nofun) rfl⟩
  | lost =>
    exact ⟨_, _, _, rfl, rfl, ends _ _ _ (made lives fun alive => nomatch (live alive).1)
      (fun _ => nofun) rfl⟩
  | returns =>
    refine ⟨_, _, _, rfl, rfl, ends _ _ _ (made lives ?_) ?_ rfl⟩
    all_goals cases (act w).1
    · rintro - _ ⟨⟩
      rfl
    · exact fun _ _ => nofun
    · exact fun _ => nofun
    · exact fun _ same => congrArg Except.ok (Except.ok.inj same)

/-- A call that is written down: either host answers as it does for itself, or a fault refuses. -/
theorem entered {post : Except Failure α → Session k (Simulator k) →
      Session k (Simulator k) → Prop} {c : Call k} {act : Request (Simulator k) α}
    (beside : Beside key x x') (acts : Acts key act (x.world.noted c) (x'.world.noted c))
    (ends : ∀ answer y y', Abreast key x answer y y' →
      (∀ a, answer = .ok a → (act (x.world.noted c)).1 = .ok a) → y.spec = x.spec →
        post answer y y') :
    Run.Agrees (Engine.call c.operation (Simulator.enter c act))
      (Engine.call c.operation (Simulator.enter c act)) x x' post := by
  refine call beside (.enter beside.faults beside.there acts) fun answer y y' abreast answered => ?_
  refine ends answer y y' abreast fun a ok => ?_
  have entered := answered a ok
  cases pending : x.world.faults c.operation with
  | some e => rw [Simulator.enter_of_fault pending] at entered; cases entered
  | none => rwa [Simulator.enter_of_quiet pending] at entered

theorem presence {post : Except Failure Bool → Session k (Simulator k) →
      Session k (Simulator k) → Prop} (beside : Beside key x x')
    (ends : ∀ answer y y', Abreast key x answer y y' →
      (∀ there, answer = .ok there → there = (Host.find? x.world.hosted text).isSome) →
      y.spec = x.spec → post answer y y') :
    Run.Agrees (Engine.call .presence ((settings.engine clock k).gateway.presence text))
      (Engine.call .presence ((settings'.engine clock' k).gateway.presence text)) x x' post := by
  have acts : Acts key (fun w : Simulator k => (.ok (Host.find? w.hosted text).isSome, w))
      (x.world.noted (.presence text)) (x'.world.noted (.presence text)) :=
    .ask beside.there (congrArg (fun found => Except.ok found.isSome) (beside.find?_eq text))
      fun _ => rfl
  refine entered beside acts fun answer y y' abreast answered kept => ?_
  exact ends answer y y' abreast (fun there ok => (Except.ok.inj (answered there ok)).symm) kept

/-- Reading the one resource, under a text that leads to it. -/
theorem get {post : Except Failure (HostedOf k) → Session k (Simulator k) →
      Session k (Simulator k) → Prop} (beside : Beside key x x')
    (aimed : Host.find? x.world.hosted text = some key)
    (ends : ∀ answer y y', Abreast key x answer y y' →
      (∀ h, answer = .ok h → x.world.hosted.get? key = some h) → y.spec = x.spec →
        post answer y y') :
    Run.Agrees (Engine.call .get ((settings.engine clock k).gateway.get text))
      (Engine.call .get ((settings'.engine clock' k).gateway.get text)) x x' post := by
  have read (w : Simulator k) (aimed : Host.find? w.hosted text = some key) :
      w.current? text = w.hosted.get? key := by
    rw [Host.current?, aimed, Option.bind_some]
  have first := read (x.world.noted (.get text)) aimed
  have second := read (x'.world.noted (.get text)) ((beside.find?_eq text).trans aimed)
  have there : (x'.world.noted (.get text)).hosted.get? key =
      (x.world.noted (.get text)).hosted.get? key := beside.there
  simp only [RunSettings.engine, Simulator.gateway]
  refine entered (c := .get text) beside (.ask beside.there ?_ fun w => by split <;> rfl)
    fun answer y y' abreast answered kept => ends answer y y' abreast (fun h ok => ?_) kept
  · rw [first, second, there]
    cases (x.world.noted (.get text)).hosted.get? key <;> rfl
  · have answered := answered h ok
    rw [first] at answered
    show (x.world.noted (.get text)).hosted.get? key = some h
    split at answered
    next h' found => rw [found, Except.ok.inj answered]
    next => cases answered

/-- The rule of the calls that change the one resource, but not its title. -/
theorem modified {post : Except Failure Unit → Session k (Simulator k) →
      Session k (Simulator k) → Prop} {c : Call k} {f : HostedOf k → HostedOf k}
    (kept : ∀ h, (f h).title = h.title) (beside : Beside key x x')
    (aimed : Host.find? x.world.hosted text = some key)
    (ends : ∀ answer y y', Abreast key x answer y y' → post answer y y') :
    Run.Agrees
      (Engine.call c.operation
        (Simulator.enter c (Simulator.modifyHosted text fun h => .ok (f h))))
      (Engine.call c.operation
        (Simulator.enter c (Simulator.modifyHosted text fun h => .ok (f h)))) x x' post :=
  entered beside (.modifyHosted kept beside.titles beside.there aimed)
    fun answer y y' abreast _ _ => ends answer y y' abreast

end Run.Agrees

end DesiredState
