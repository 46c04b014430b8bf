import DesiredState.Proofs.Reconcile.Ownership
import DesiredState.Proofs.Reconcile.Yields

/-!
# The identifier during a sync

Whatever a sync ends with, whichever calls fail or are cancelled on the way: the specification keeps
its intent, it keeps an identifier that the host has not denied, and where it has none it takes over
that of the resource found under its name or created by this sync.

Contents:

* `Engine.answerOnIdentifier` — the answer to the first question of a sync.
* `Waiting`, `Holding`, `Searched` — the specification before and after it knows its resource.
* `locateByName`, `locate`, `settle`, `conclude` — the parts of a sync.
* `Lifecycle`, `sync_lifecycle` — the main result.
-/

namespace DesiredState

variable {k : Kind}

/-- What the host answers when it is asked for what stands under the identifier. -/
def Engine.answerOnIdentifier (e : Engine k (Simulator k)) (x : Session k (Simulator k)) :
    Except Failure Bool :=
  ((Engine.call .presence (e.gateway.presence x.spec.identifier)).run x).1

/-- The identifier is not known, or the host has denied it. -/
def Unknown (s : Spec k) (asked : Except Failure Bool) : Prop :=
  s.identifier = "" ∨ asked = .ok false

/-- The resource that a specification took over: one that was found under its name, or a new one. -/
inductive Obtained (s : Spec k) (w : Simulator k) (y : Session k (Simulator k)) : Prop
  | found {h : HostedOf k} (there : w.current? s.name = some h)
      (identifier : y.spec.identifier = h.identifier)
  | created (missing : w.current? s.name = none)
      (identifier : y.spec.identifier = k.identifier w.serial.next)
      (serial : y.world.serial = w.serial.succ)
      (hosted : (y.world.hosted.get? y.spec.identifier).map Hosted.name = some s.name)

/-- No resource is known yet. -/
structure Waiting (s : Spec k) (asked : Except Failure Bool) (w : Simulator k)
    (y : Session k (Simulator k)) : Prop where
  unknown : Unknown s asked
  intent : y.spec.intent = s.intent
  time : y.spec.shared.lastSyncTime = s.shared.lastSyncTime
  identifier : y.spec.identifier = ""
  observed : s.identifier ≠ "" → y.spec.observed = k.rules.unobserved
  hosted : y.world.hosted = w.hosted
  serial : y.world.serial = w.serial

/-- The identifier is the first one, which the host has not denied, or that of a resource which this
sync found or created. -/
structure Holding (s : Spec k) (asked : Except Failure Bool) (w : Simulator k)
    (y : Session k (Simulator k)) : Prop where
  intent : y.spec.intent = s.intent
  time : y.spec.shared.lastSyncTime = s.shared.lastSyncTime
  known : y.spec.identifier ≠ ""
  source : (s.identifier ≠ "" ∧ asked ≠ .ok false ∧ y.spec.identifier = s.identifier) ∨
    Unknown s asked ∧ Obtained s w y

/-- What looking for the resource comes to. -/
def Searched (s : Spec k) (asked : Except Failure Bool) (w : Simulator k) :
    Except Failure (Presence k) → Session k (Simulator k) → Prop
  | .error _, y => Waiting s asked w y ∨ Holding s asked w y
  | .ok (.found _), y => Holding s asked w y
  | .ok (.missing _), y => Waiting s asked w y ∧ w.current? s.name = none

section

variable {s : Spec k} {asked : Except Failure Bool} {w : Simulator k}
  {x y z : Session k (Simulator k)}

theorem Waiting.idle (waiting : Waiting s asked w y) (idle : Idle y z) : Waiting s asked w z := by
  obtain ⟨unknown, intent, time, identifier, observed, hosted, serial⟩ := waiting
  rw [← idle.spec] at intent time identifier observed
  exact ⟨unknown, intent, time, identifier, observed, idle.hosted.trans hosted,
    idle.serial.trans serial⟩

theorem Holding.steady (holding : Holding s asked w y) (steady : Steady y z) :
    Holding s asked w z := by
  obtain ⟨intent, time, known, source⟩ := holding
  refine ⟨steady.intent.trans intent, steady.time.trans time, steady.identifier ▸ known, ?_⟩
  rcases source with ⟨some, admitted, same⟩ | ⟨unknown, obtained⟩
  · exact .inl ⟨some, admitted, steady.identifier.trans same⟩
  · refine .inr ⟨unknown, ?_⟩
    cases obtained with
    | found there same => exact .found there (steady.identifier.trans same)
    | created missing same serial hosted =>
      refine .created missing (steady.identifier.trans same) (steady.serial.trans serial) ?_
      rw [steady.identifier, steady.names, hosted]

end

namespace Run.Yields

variable {settings : RunSettings} {clock now : Instant} {s : Spec k} {w : Simulator k}
  {asked : Except Failure Bool} {x : Session k (Simulator k)}

theorem prepare {post : Except Failure Unit → Session k (Simulator k) → Prop} {token : Token}
    (refused : ∀ v, s.prepare.2 = .error v → post (.error (.validation v)) ⟨s.prepare.1, w, token⟩)
    (accepted : s.prepare.2 = .ok () → post (.ok ()) ⟨s.prepare.1, w, token⟩) :
    Run.Yields Engine.prepare ⟨s, w, token⟩ post := by
  unfold Engine.prepare
  refine bind (spec (bind (modifySpec ?_)))
  cases verdict : s.prepare.2 with
  | error v =>
    have refusal : s.complete.accept = .error v := verdict
    simp only [refusal]
    exact throw (refused v verdict)
  | ok =>
    have acceptance : s.complete.accept = .ok () := verdict
    simp only [acceptance]
    exact pure (accepted verdict)

/-! ## Looking for the resource -/

theorem locateByName (consistent : Consistent w.hosted) (waiting : Waiting s asked w x) :
    ((settings.engine clock k).locateByName).Yields x (Searched s asked w) := by
  have name : x.spec.name = s.name := Spec.name_eq_of_intent waiting.intent
  unfold Engine.locateByName
  refine bind (spec (bind (presence (fun f y idle => .inl (waiting.idle idle)) fun y idle => ?_)))
  rw [waiting.hosted, Host.isSome_find? consistent, name]
  cases there : w.current? s.name with
  | none => exact pure ⟨waiting.idle idle, there⟩
  | some h =>
    refine bind (get (fun f z idle' => .inl (waiting.idle (idle.trans idle'))) fun h' z read idle' => ?_)
    refine bind (modifySpec (pure ?_))
    -- What is read is what was there in the beginning.
    have same : y.world.current? s.name = w.current? s.name := by
      rw [Host.current?, Host.current?, idle.hosted, waiting.hosted]
    obtain rfl : h = h' := Option.some.inj (there.symm.trans (same.symm.trans read))
    have still := waiting.idle (idle.trans idle')
    exact ⟨still.intent, still.time, (Host.get?_of_current? consistent there).1,
      .inr ⟨waiting.unknown, .found there rfl⟩⟩

theorem locate (consistent : Consistent w.hosted) (token : Token) :
    ((settings.engine clock k).locate).Yields ⟨s, w, token⟩
      (Searched s ((settings.engine clock k).answerOnIdentifier ⟨s, w, token⟩) w) := by
  -- Of the first answer only those two things matter that are shown where it is given.
  generalize first : (settings.engine clock k).answerOnIdentifier ⟨s, w, token⟩ = asked
  unfold Engine.locate
  refine bind (spec ?_)
  dsimp only
  by_cases unknown : s.identifier = ""
  · have waiting : Waiting s asked w ⟨s, w, token⟩ :=
      ⟨.inl unknown, rfl, rfl, unknown, fun known => absurd unknown known, rfl, rfl⟩
    rw [if_pos (String.isEmpty_iff.mpr unknown)]
    exact locateByName consistent waiting
  · have held : ∀ {y}, asked ≠ .ok false → Idle ⟨s, w, token⟩ y → Holding s asked w y := by
      intro y admitted idle
      have same : y.spec = s := idle.spec
      rw [← same] at unknown
      exact ⟨by rw [same], by rw [same], unknown, .inl ⟨same ▸ unknown, admitted, by rw [same]⟩⟩
    rw [if_neg (by simpa using unknown)]
    -- The answer to the first question is the one that `asked` stands for.
    have answered : (Engine.call .presence
        ((settings.engine clock k).gateway.presence s.identifier)).Yields ⟨s, w, token⟩
        fun answer y => answer = asked ∧ Idle ⟨s, w, token⟩ y := by
      have idle : (Engine.call .presence
          ((settings.engine clock k).gateway.presence s.identifier)).Yields ⟨s, w, token⟩
          fun _ y => Idle ⟨s, w, token⟩ y :=
        presence (fun _ _ idle => idle) fun _ idle => idle
      exact ⟨first, idle.ends⟩
    refine bind (answered.mono ?_)
    rintro (f | there) y ⟨answer, idle⟩
    · exact .inr (held (by rw [← answer]; nofun) idle)
    cases there with
    | true =>
      have admitted : asked ≠ .ok false := by rw [← answer]; nofun
      refine bind (get (fun f z idle' => .inr (held admitted (idle.trans idle'))) ?_)
      exact fun h z _ idle' => pure (held admitted (idle.trans idle'))
    | false =>
      have same : y.spec = s := idle.spec
      have waiting : Waiting s asked w { y with spec := (y.spec.withIdentifier "").clearObserved } := by
        rw [same]
        exact ⟨.inr answer.symm, rfl, rfl, rfl, fun _ => rfl, idle.hosted, idle.serial⟩
      refine bind (modifySpec (bind ((locateByName consistent waiting).mono ?_)))
      rintro (f | h | drifted) z searched
      · exact searched
      · exact pure searched
      · exact pure searched

/-! ## Changes, tags, and the end -/

theorem applyAll (cs : List k.Change) :
    ((settings.engine clock k).applyAll cs).Yields x fun _ y => Steady x y := by
  induction cs generalizing x with
  | nil => exact pure (.refl x)
  | cons c cs inductionHypothesis =>
    unfold Engine.applyAll Engine.applyOne
    have rest : ∀ {y} (one : List k.Change × List Warning), Steady x y → Run.Yields (do
        let others ← (settings.engine clock k).applyAll cs
        Pure.pure (one.1 ++ others.1, one.2 ++ others.2)) y fun _ z => Steady x z := by
      intro y one steady
      refine bind (inductionHypothesis.mono ?_)
      rintro (f | _) z steady'
      · exact steady.trans steady'
      · exact pure (steady.trans steady')
    refine bind (bind (spec (tryCatch (bind (update ?_)))))
    rintro (f | _) y steady
    · dsimp only
      split
      · exact pure (rest ([], _) steady)
      · exact throw steady
    · exact pure (rest ([c], []) steady)

/-- The rest of a sync of a known resource sets nothing but the time, and that last of all. -/
theorem conclude (action : SyncAction) (applied : List k.Change) (warnings : List Warning)
    (tags : Tags) :
    ((settings.engine clock k).conclude now action applied warnings tags).Yields x fun
      | .error _, y => Steady x y
      | .ok _, y => ∃ z, Steady x z ∧ y = { z with spec := z.spec.syncedAgain now } := by
  have reconcile : ∀ {y}, Steady x y →
      ((settings.engine clock k).reconcileTags tags).Yields y fun _ z => Steady x z := by
    intro y steady
    have removals : ∀ {z} (identifier : String) (plan : TagPlan), Steady x z → Run.Yields (
        if (!plan.remove.isEmpty) = true then do
          Engine.call .untag ((settings.engine clock k).gateway.untag identifier plan.remove)
          Pure.pure plan
        else Pure.pure plan) z fun _ z => Steady x z := by
      intro z identifier plan steady
      split
      · refine bind (untag ?_)
        rintro (f | _) z' steady'
        · exact steady.trans steady'
        · exact pure (steady.trans steady')
      · exact pure steady
    unfold Engine.reconcileTags
    refine bind (spec ?_)
    dsimp only
    split
    · refine bind (tag ?_)
      rintro (f | _) z steady'
      · exact steady.trans steady'
      · exact removals _ _ (steady.trans steady')
    · exact removals _ _ steady
  have rest : ∀ {y}, Steady x y → Run.Yields (do
      let plan ← (settings.engine clock k).reconcileTags tags
      Engine.modifySpec fun s => { s with shared := { s.shared with lastSyncTime := some now } }
      Pure.pure (⟨action, applied, plan, warnings⟩ : SyncOutcome k)) y fun
        | .error _, y => Steady x y
        | .ok _, y => ∃ z, Steady x z ∧ y = { z with spec := z.spec.syncedAgain now } := by
    intro y steady
    refine bind ((reconcile steady).mono ?_)
    rintro (f | plan) z steady'
    · exact steady'
    · exact bind (modifySpec (pure ⟨z, steady', rfl⟩))
  unfold Engine.conclude
  dsimp only
  split
  · unfold Engine.refresh
    refine bind (bind (spec (bind (get (fun f y idle => idle.steady) fun h y _ idle => ?_))))
    exact modifySpec (rest (idle.steady.trans (.observe y h)))
  · exact rest (.refl x)

/-- Work on the resource, found or not: a new one is known once it is created. -/
theorem settle {presence : Presence k} (searched : Searched s asked w (.ok presence) x) :
    ((settings.engine clock k).settle presence).Yields x fun
      | .error _, y => Waiting s asked w y ∨ Holding s asked w y
      | .ok _, y => Holding s asked w y := by
  cases presence with
  | found h =>
    have holding : Holding s asked w x := searched
    unfold Engine.settle Engine.converge
    refine bind (bind (modifySpec (bind (spec ((applyAll _).mono ?_)))))
    rintro (f | made) y steady
    · exact .inr (holding.steady ((Steady.observe x h).trans steady))
    · exact pure (holding.steady ((Steady.observe x h).trans steady))
  | missing drifted =>
    obtain ⟨waiting, missing⟩ := searched
    have name : x.spec.name = s.name := Spec.name_eq_of_intent waiting.intent
    unfold Engine.settle Engine.create
    refine bind (bind (spec (bind (create (fun f y idle => .inl (waiting.idle idle)) ?_))))
    intro y _ after hosted serial
    have holding : Holding s asked w y := by
      have same : y.spec.identifier = k.identifier w.serial.next := by
        rw [after, ← waiting.serial]
        rfl
      refine ⟨?_, ?_, ?_, .inr ⟨waiting.unknown, .created missing same ?_ ?_⟩⟩
      · rw [after, ← waiting.intent]
        rfl
      · rw [after, ← waiting.time]
        rfl
      · rw [same]
        exact k.identifier_ne_empty _
      · rw [serial, waiting.serial]
      · rw [hosted, same, waiting.serial, Dict.get?_insert_self, ← name]
        rfl
    refine ⟨fun f => .inr holding, bind (spec ?_)⟩
    dsimp only
    rw [if_neg (by simpa using holding.known)]
    refine (applyAll _).mono ?_
    rintro (f | made) z steady
    · exact .inr (holding.steady steady)
    · exact pure (holding.steady steady)

end Run.Yields

/-! ## The main result -/

/-- What holds of the last specification of a sync that began with a prepared one. -/
structure Lifecycle (s : Spec k) (asked : Except Failure Bool) (w : Simulator k)
    (answer : Except Failure (SyncOutcome k)) (last : Session k (Simulator k)) : Prop where
  /-- An identifier that the host has not denied stays. -/
  kept : s.identifier ≠ "" → asked ≠ .ok false → last.spec.identifier = s.identifier
  /-- Otherwise it is that of the resource found or created, or there is none and an error. -/
  obtained : Unknown s asked →
    (last.spec.identifier = "" ∧ ∃ f, answer = .error f) ∨
      last.spec.identifier ≠ "" ∧ Obtained s w last
  /-- A sync that fails leaves the time of the last one. -/
  time : ∀ f, answer = .error f → last.spec.shared.lastSyncTime = s.shared.lastSyncTime
  /-- A resource that has vanished and was not replaced is forgotten. -/
  forgotten : s.identifier ≠ "" → asked = .ok false → last.spec.identifier = "" →
    last.spec.observed = k.rules.unobserved
  /-- All that was asked for is as it was prepared. -/
  intent : last.spec.intent = s.intent

variable {settings : RunSettings} {clock now : Instant} {s : Spec k} {w : Simulator k}
  {asked : Except Failure Bool} {y : Session k (Simulator k)}

theorem Waiting.lifecycle (waiting : Waiting s asked w y) (f : Failure) :
    Lifecycle s asked w (.error f) y where
  kept some admitted := waiting.unknown.elim (fun none => absurd none some)
    fun denied => absurd denied admitted
  obtained _ := .inl ⟨waiting.identifier, f, rfl⟩
  time _ _ := waiting.time
  forgotten some _ _ := waiting.observed some
  intent := waiting.intent

theorem Holding.lifecycle (holding : Holding s asked w y) (answer : Except Failure (SyncOutcome k)) :
    Lifecycle s asked w answer y where
  kept some admitted := by
    rcases holding.source with ⟨-, -, same⟩ | ⟨none | denied, -⟩
    · exact same
    · exact absurd none some
    · exact absurd denied admitted
  obtained unknown := by
    rcases holding.source with ⟨some, admitted, -⟩ | ⟨-, obtained⟩
    · exact unknown.elim (fun none => absurd none some) fun denied => absurd denied admitted
    · exact .inr ⟨holding.known, obtained⟩
  time _ _ := holding.time
  forgotten _ _ none := absurd none holding.known
  intent := holding.intent

/-- The time of a sync that answers is the only other thing that is set. -/
theorem Lifecycle.syncedAgain {o o' : SyncOutcome k}
    (lifecycle : Lifecycle s asked w (.ok o) y) :
    Lifecycle s asked w (.ok o') { y with spec := y.spec.syncedAgain now } where
  kept := lifecycle.kept
  obtained unknown := by
    rcases lifecycle.obtained unknown with ⟨-, f, ⟨⟩⟩ | ⟨known, obtained⟩
    refine .inr ⟨known, ?_⟩
    cases obtained with
    | found there same => exact .found there same
    | created missing same serial hosted => exact .created missing same serial hosted
  time _ := nofun
  forgotten := lifecycle.forgotten
  intent := lifecycle.intent

/-- A sync once its specification is prepared. -/
theorem Run.Yields.pursue (consistent : Consistent w.hosted) (token : Token) :
    Run.Yields (do
      let presence ← (settings.engine clock k).locate
      let (action, (applied, warnings), tags) ← (settings.engine clock k).settle presence
      (settings.engine clock k).conclude now action applied warnings tags) ⟨s, w, token⟩
      (Lifecycle s ((settings.engine clock k).answerOnIdentifier ⟨s, w, token⟩) w) := by
  have located : ((settings.engine clock k).locate).Yields ⟨s, w, token⟩ _ :=
    locate consistent token
  generalize (settings.engine clock k).answerOnIdentifier ⟨s, w, token⟩ = asked at located
  refine bind (located.mono ?_)
  rintro (f | presence) y searched
  · exact searched.elim (fun waiting => waiting.lifecycle f) fun holding => holding.lifecycle _
  refine bind ((settle searched).mono ?_)
  rintro (f | ⟨action, ⟨applied, warnings⟩, tags⟩) z settled
  · exact settled.elim (fun waiting => waiting.lifecycle f) fun holding => holding.lifecycle _
  refine (conclude action applied warnings tags).mono ?_
  rintro (f | o) last ended
  · exact (settled.steady ended).lifecycle _
  · obtain ⟨z', steady, rfl⟩ := ended
    exact ((settled.steady steady).lifecycle (.ok o)).syncedAgain

/-- However a sync ends, a refused specification is completed and nothing else, and an accepted one
keeps its intent and has an identifier that is accounted for. -/
theorem sync_lifecycle (settings : RunSettings) (clock now : Instant) (s : Spec k)
    (consistent : Consistent w.hosted) (token : Token) :
    ((settings.engine clock k).sync now).Yields ⟨s, w, token⟩ fun answer last =>
      (∀ v, s.prepare.2 = .error v → answer = .error (.validation v) ∧
        last = ⟨s.prepare.1, w, token⟩) ∧
      (s.prepare.2 = .ok () → Lifecycle s.prepare.1
        ((settings.engine clock k).answerOnIdentifier ⟨s.prepare.1, w, token⟩) w answer last) := by
  rw [Engine.sync_eq]
  refine Run.Yields.bind (Run.Yields.prepare ?_ ?_)
  · intro v refused
    refine ⟨?_, fun accepted => nomatch refused.symm.trans accepted⟩
    intro v' refused'
    cases refused.symm.trans refused'
    exact ⟨rfl, rfl⟩
  · intro accepted
    refine (Run.Yields.pursue (s := s.prepare.1) consistent token).mono fun answer last lifecycle => ?_
    refine ⟨fun v refused => ?_, fun _ => lifecycle⟩
    cases refused.symm.trans accepted

namespace Sample

/-- A key that has vanished. -/
def vanished : Spec .cryptoKey := { held "key-9" with name := "alias/gone" }

/-- A host that refuses to create another one. -/
def refusing : Simulator .cryptoKey :=
  host fun op => if op = .create then some (.throttled 5) else none

end Sample

theorem sync_lifecycle_key :
    Sample.vanished.identifier ≠ "" ∧
      ((({} : RunSettings).engine .epoch .cryptoKey).sync .epoch).Yields
        ⟨Sample.vanished, Sample.refusing, .live⟩
        (Lifecycle Sample.vanished (.ok false) Sample.refusing) := by
  have prepared : Sample.vanished.prepare = (Sample.vanished, .ok ()) := by decide
  have asked : (({} : RunSettings).engine .epoch .cryptoKey).answerOnIdentifier
      ⟨Sample.vanished, Sample.refusing, .live⟩ = .ok false := by decide
  have lifecycle := sync_lifecycle {} .epoch .epoch Sample.vanished (w := Sample.refusing)
    (Sample.consistent_host _) .live
  rw [prepared, asked] at lifecycle
  exact ⟨by decide, lifecycle.mono fun answer last holds => holds.2 rfl⟩

end DesiredState
