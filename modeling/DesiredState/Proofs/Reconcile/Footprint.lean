import DesiredState.Proofs.Reconcile.Lifecycle
import DesiredState.Proofs.Reconcile.Locality
import DesiredState.Proofs.Reconcile.Simulation

/-!
# The footprint of a sync

However a sync ends, it has changed at most one hosted resource: the one that it found, which keeps
its title, or a new one, whose name nothing else has.  Faults never come back during a sync.

Contents:

* `Created`, `Marks` — what a sync leaves of a host.
* `locate_missing`, `createAndChange` — the parts of a sync that finds nothing.
* `Run.Yields.sync_marks` — the main result.
* `sync_spent` — faults only go away.
-/

namespace DesiredState

variable {k : Kind} {σ α : Type}

/-! ## What is left -/

/-- A new resource was hosted under a new identifier, and all else stayed as it was. -/
structure Created (s : Spec k) (w : Simulator k) (y : Session k (Simulator k)) : Prop where
  identifier : y.spec.identifier = k.identifier w.serial.next
  free : Host.find? w.hosted s.name = none
  title : titleAt y.world.hosted (k.identifier w.serial.next) =
    some (k.identifier w.serial.next, s.name)
  others : ∀ key, key ≠ k.identifier w.serial.next → y.world.hosted.get? key = w.hosted.get? key
  serial : y.world.serial = w.serial.succ

/-- What a sync leaves of a host: all as it was, or one resource tended, or one created. -/
inductive Marks (s : Spec k) (w : Simulator k) (answer : Except Failure (SyncOutcome k))
    (y : Session k (Simulator k)) : Prop
  | idle (failed : ∃ f, answer = .error f) (hosted : y.world.hosted = w.hosted)
      (serial : y.world.serial = w.serial)
  | tended {key : String} (sought : s.sought? w.hosted = some key)
      (tended : Tended key w.hosted y.world.hosted) (serial : y.world.serial = w.serial)
      (aims : ∀ o, answer = .ok o → Aims key y)
  | created (missing : s.sought? w.hosted = none) (created : Created s w y)
      (told : ∀ o, answer = .ok o → o.action = .created ∨ o.action = .recreated)

/-- A created resource is aimed at, and stays so while it is tended. -/
theorem Created.aims {s : Spec k} {w : Simulator k} {y : Session k (Simulator k)}
    (created : Created s w y) : Aims (k.identifier w.serial.next) y where
  known := created.identifier ▸ k.identifier_ne_empty w.serial.next
  found := by
    rw [created.identifier]
    refine Host.find?_of_contains ?_
    rw [contains_eq_isSome_titleAt, created.title]
    rfl

theorem Created.tends {s : Spec k} {w : Simulator k} {y z : Session k (Simulator k)}
    (created : Created s w y) (tends : Tends (k.identifier w.serial.next) y z) : Created s w z where
  identifier := (tends.kept created.aims).trans created.identifier
  free := created.free
  title := tends.tended.title.trans created.title
  others key other := (tends.tended.others key other).trans (created.others key other)
  serial := tends.serial.trans created.serial

theorem Created.consistent {s : Spec k} {w : Simulator k} {y : Session k (Simulator k)}
    (created : Created s w y) (consistent : Consistent w.hosted) : Consistent y.world.hosted := by
  intro key h found
  by_cases own : key = k.identifier w.serial.next
  · subst own
    have title : some h.title = some (k.identifier w.serial.next, s.name) := by
      rw [← created.title, titleAt, found]
      rfl
    exact ⟨k.identifier_ne_empty w.serial.next, congrArg Prod.fst (Option.some.inj title)⟩
  · exact consistent key h ((created.others key own).symm.trans found)

theorem Run.Agrees.yields {run : Run k σ α} {x : Session k σ}
    {post : Except Failure α → Session k σ → Session k σ → Prop}
    (agrees : run.Agrees run x x post) : run.Yields x fun answer y => post answer y y := by
  obtain ⟨answer, y, y', ran, ran', holds⟩ := agrees
  obtain ⟨-, rfl⟩ := Prod.mk.inj (ran.symm.trans ran')
  exact ⟨by rw [ran]; exact holds⟩

/-! ## A sync that finds nothing -/

/-- Nothing was changed yet but what is known of the resource. -/
structure Bare (s : Spec k) (w : Simulator k) (y : Session k (Simulator k)) : Prop where
  intent : y.spec.intent = s.intent
  hosted : y.world.hosted = w.hosted
  serial : y.world.serial = w.serial

theorem Bare.idle {s : Spec k} {w : Simulator k} {y z : Session k (Simulator k)}
    (bare : Bare s w y) (idle : Idle y z) : Bare s w z :=
  ⟨idle.spec ▸ bare.intent, idle.hosted.trans bare.hosted, idle.serial.trans bare.serial⟩

namespace Run.Yields

variable {settings : RunSettings} {clock now : Instant} {s : Spec k} {w : Simulator k}
  {x : Session k (Simulator k)}

theorem locateByName_missing (bare : Bare s w x) (free : Host.find? w.hosted s.name = none) :
    (settings.engine clock k).locateByName.Yields x fun answer y =>
      Bare s w y ∧ ∀ p, answer = .ok p → p = .missing false := by
  have name : x.spec.name = s.name := Spec.name_eq_of_intent bare.intent
  unfold Engine.locateByName
  refine bind (spec (bind (presence (fun f y idle => ⟨bare.idle idle, fun _ => nofun⟩) fun y idle => ?_)))
  rw [bare.hosted, name, free]
  exact pure ⟨bare.idle idle, fun _ same => (Except.ok.inj same).symm⟩

theorem locate_missing (bare : Bare s w x) (missing : x.spec.sought? w.hosted = none) :
    (settings.engine clock k).locate.Yields x fun answer y =>
      Bare s w y ∧ ∀ p, answer = .ok p → ∃ drifted, p = .missing drifted := by
  obtain ⟨unheld, free⟩ := Option.or_eq_none_iff.mp missing
  rw [Spec.name_eq_of_intent bare.intent] at free
  unfold Engine.locate
  refine bind (spec ?_)
  dsimp only
  split
  · exact (locateByName_missing bare free).mono fun _ _ ends =>
      ⟨ends.1, fun p same => ⟨false, ends.2 p same⟩⟩
  next known =>
    rw [if_neg (by simpa using known)] at unheld
    refine bind (presence (fun f y idle => ⟨bare.idle idle, fun _ => nofun⟩) fun y idle => ?_)
    rw [bare.hosted, unheld]
    have bare' : Bare s w { y with spec := (y.spec.withIdentifier "").clearObserved } := by
      have after := bare.idle idle
      exact ⟨after.intent, after.hosted, after.serial⟩
    refine bind (modifySpec (bind ((locateByName_missing bare' free).mono ?_)))
    rintro (f | p) z ⟨bare'', ended⟩
    · exact ⟨bare'', fun _ => nofun⟩
    · obtain rfl := ended p rfl
      exact pure ⟨bare'', fun _ same => ⟨true, (Except.ok.inj same).symm⟩⟩

/-- A resource is created and changed, or nothing is. -/
theorem createAndChange (bare : Bare s w x) (free : Host.find? w.hosted s.name = none) :
    (settings.engine clock k).create.Yields x fun answer y => y.spec.intent = s.intent ∧
      (Created s w y ∨ Bare s w y ∧ ∃ f, answer = .error f) := by
  have name : x.spec.name = s.name := Spec.name_eq_of_intent bare.intent
  unfold Engine.create
  refine bind (spec (bind (create (fun f y idle => ?_) ?_)))
  · exact ⟨(bare.idle idle).intent, .inr ⟨bare.idle idle, f, rfl⟩⟩
  intro y _ after hosted serial
  rw [bare.serial] at after hosted serial
  have intent : y.spec.intent = s.intent := by
    rw [after, ← bare.intent]
    rfl
  have created : Created s w y := by
    refine ⟨by rw [after]; rfl, free, ?_, fun key other => ?_, serial⟩
    · rw [titleAt, hosted, Dict.get?_insert_self, ← name]
      rfl
    · rw [hosted, Dict.get?_insert_of_ne _ _ other, bare.hosted]
  refine ⟨fun f => ⟨intent, .inl created⟩, bind (spec ?_)⟩
  dsimp only
  rw [if_neg (by simpa using created.aims.known)]
  refine (Agrees.applyAll _ (.refl _ y) created.aims).yields.mono ?_
  intro answer z abreast
  exact ⟨abreast.tends.intent.trans intent, .inl (created.tends abreast.tends)⟩

/-- The last part of a sync that has created its resource. -/
theorem conclude_created {action : SyncAction} {applied : List k.Change} {warnings : List Warning}
    {tags : Tags} (created : Created s w x) :
    ((settings.engine clock k).conclude now action applied warnings tags).Yields x fun answer y =>
      y.spec.intent = x.spec.intent ∧ Created s w y ∧ ∀ o, answer = .ok o → o.action = action := by
  refine (Agrees.yields (Agrees.conclude action applied warnings tags (.refl _ x)
    created.aims)).mono ?_
  rintro (f | o) y ended
  · exact ⟨ended.tends.intent, created.tends ended.tends, fun _ => nofun⟩
  · obtain ⟨told, z, _, abreast, rfl, -⟩ := ended
    obtain ⟨identifier, free, title, others, serial⟩ := created.tends abreast.tends
    refine ⟨abreast.tends.intent, ⟨identifier, free, title, others, serial⟩, ?_⟩
    rintro _ ⟨⟩
    exact told

/-- A sync once its specification is prepared, if nothing is found. -/
theorem pursue_missing (bare : Bare s w x) (missing : x.spec.sought? w.hosted = none) :
    Run.Yields (do
      let presence ← (settings.engine clock k).locate
      let (action, (applied, warnings), tags) ← (settings.engine clock k).settle presence
      (settings.engine clock k).conclude now action applied warnings tags) x fun answer y =>
      y.spec.intent = s.intent ∧
        (Created s w y ∧ (∀ o, answer = .ok o → o.action = .created ∨ o.action = .recreated) ∨
          Bare s w y ∧ ∃ f, answer = .error f) := by
  have free : Host.find? w.hosted s.name = none := by
    rw [← Spec.name_eq_of_intent bare.intent]
    exact (Option.or_eq_none_iff.mp missing).2
  refine bind ((locate_missing bare missing).mono ?_)
  rintro (f | p) y ⟨bare', located⟩
  · exact ⟨bare'.intent, .inr ⟨bare', f, rfl⟩⟩
  obtain ⟨drifted, rfl⟩ := located p rfl
  unfold Engine.settle
  refine bind (bind ((createAndChange bare' free).mono ?_))
  -- From here on something was created, or the sync has failed already.
  rintro (f | made) z ⟨intent, ended⟩
  · exact ⟨intent, ended.imp (⟨·, fun _ => nofun⟩) fun ended => ⟨ended.1, f, rfl⟩⟩
  · have created := ended.resolve_right fun failed => nomatch failed.2
    refine pure ((conclude_created created).mono fun answer last ended => ?_)
    refine ⟨ended.1.trans intent, .inl ⟨ended.2.1, fun o same => ?_⟩⟩
    rw [ended.2.2 o same]
    cases drifted
    · exact .inl rfl
    · exact .inr rfl

/-- However a sync ends, it has kept the intent and marked its host at one place at most. -/
theorem sync_marks (settings : RunSettings) (clock now : Instant) (s : Spec k)
    (consistent : Consistent w.hosted) (token : Token) :
    ((settings.engine clock k).sync now).Yields ⟨s, w, token⟩ fun answer y =>
      y.spec.intent = s.prepare.1.intent ∧ Marks s.prepare.1 w answer y := by
  rw [Engine.sync_eq]
  refine bind (prepare (fun v _ => ⟨rfl, .idle ⟨_, rfl⟩ rfl rfl⟩) fun _ => ?_)
  cases sought : s.prepare.1.sought? w.hosted with
  | some key =>
    refine (Agrees.yields (Agrees.pursue (.refl key _) consistent sought)).mono ?_
    intro answer y attended
    exact ⟨attended.tends.intent,
      .tended sought attended.tends.tended attended.tends.serial attended.aims⟩
  | none =>
    refine (pursue_missing (s := s.prepare.1) ⟨rfl, rfl, rfl⟩ sought).mono ?_
    rintro answer y ⟨intent, ⟨created, told⟩ | ⟨bare, failed⟩⟩
    · exact ⟨intent, .created sought created told⟩
    · exact ⟨intent, .idle failed bare.hosted bare.serial⟩

end Run.Yields

/-! ## Faults only go away -/

theorem spent_enter {c : Call k} {act : Request (Simulator k) α}
    (silent : ∀ w, (act w).2.faults = w.faults) (w : Simulator k) :
    Spent w (Simulator.enter c act w).2 := by
  cases pending : w.faults c.operation with
  | some e =>
    rw [Simulator.enter_of_fault pending]
    exact (struck_struck pending).spent
  | none =>
    rw [Simulator.enter_of_quiet pending]
    exact .of_eq (silent (w.noted c))

theorem faults_modifyHosted (identifier : String)
    (f : HostedOf k → Except GatewayError (HostedOf k)) (w : Simulator k) :
    (Simulator.modifyHosted identifier f w).2.faults = w.faults := by
  unfold Simulator.modifyHosted
  split
  · rfl
  · split <;> rfl

/-- The two sessions are one, in which no faults have come back. -/
def Spending (w₀ : Simulator k) (x y : Session k (Simulator k)) : Prop := y = x ∧ Spent w₀ x.world

theorem Spending.follows {w₀ : Simulator k} (request : Request (Simulator k) α)
    (spent : ∀ w, Spent w (request w).2) (op : Operation) (keep : α → Spec k → Spec k) :
    Run.Follows (Spending w₀) (fun _ => False) (Engine.callKeeping op request keep)
      (Engine.callKeeping op request keep) := by
  rintro ⟨s, w, token⟩ _ ⟨rfl, earlier⟩
  rw [Run.run_callKeeping_token]
  rcases token.next op with ⟨fate, token'⟩
  cases fate with
  | refused => exact .inr ⟨_, _, _, rfl, rfl, rfl, earlier⟩
  | lost => exact .inr ⟨_, _, _, rfl, rfl, rfl, earlier.trans (spent w)⟩
  | returns => exact .inr ⟨_, _, _, rfl, rfl, rfl, earlier.trans (spent w)⟩

theorem Engine.simulates_spending (settings : RunSettings) (clock : Instant) (w₀ : Simulator k) :
    Engine.Simulates (Spending w₀) (fun _ => False) (settings.engine clock k)
      (settings.engine clock k) where
  spec := by rintro x _ ⟨rfl, -⟩; rfl
  modified := by rintro f x _ ⟨rfl, spent⟩; exact ⟨rfl, spent⟩
  cancelled _ := nofun
  presence key := Spending.follows ((settings.engine clock k).gateway.presence key)
    (spent_enter fun _ => rfl) _ _
  get key := Spending.follows ((settings.engine clock k).gateway.get key)
    (spent_enter fun w => by split <;> rfl) _ _
  create s := Spending.follows ((settings.engine clock k).gateway.create s)
    (spent_enter fun w => by unfold Simulator.host; split <;> rfl) _ _
  update s c := Spending.follows ((settings.engine clock k).gateway.update s c)
    (spent_enter (faults_modifyHosted _ _)) _ _
  tag identifier tags := Spending.follows
    ((settings.engine clock k).gateway.tag identifier tags)
    (spent_enter (faults_modifyHosted _ _)) _ _
  untag identifier keys := Spending.follows
    ((settings.engine clock k).gateway.untag identifier keys)
    (spent_enter (faults_modifyHosted _ _)) _ _

theorem sync_spent (settings : RunSettings) (clock now : Instant) (x : Session k (Simulator k)) :
    ((settings.engine clock k).sync now).Yields x fun _ y => Spent x.world y.world := by
  rcases (Engine.simulates_spending settings clock x.world).sync now x x ⟨rfl, .refl _⟩ with
    ⟨_, _, _, ⟨⟩⟩ | ⟨answer, y, _, ran, -, rfl, spent⟩
  exact ⟨by rw [ran]; exact spent⟩

end DesiredState
