import DesiredState.Proofs.Reconcile.Agreement
import DesiredState.Proofs.Reconcile.Idempotence

/-!
# A sync is local

If the presence checks of a sync find a resource, then the sync reads and changes that one resource
only.  On two hosts where it stands in the same state, among other resources of the same titles, the
sync answers the same and leaves the same behind, wherever it is refused or cancelled on the way.

Contents:

* `Spec.untimed` — a specification without the time of its last sync.
* `applyAll`, `settle`, `conclude`, `locate` — the parts of a sync.
* `Attended`, `Run.Agrees.sync` — the whole of it.
-/

namespace DesiredState

variable {k : Kind} {α β : Type}

/-- The specification without the time of its last sync. -/
def Spec.untimed (s : Spec k) : Spec k :=
  { s with shared := { s.shared with lastSyncTime := none } }

/-- A resource that is there is found, and the identifier leads to it from then on. -/
def Locates (key : String) (x : Session k (Simulator k)) (answer : Except Failure (Presence k))
    (y y' : Session k (Simulator k)) : Prop :=
  Abreast key x answer y y' ∧ ∀ p, answer = .ok p → Aims key y ∧ ∃ h, p = .found h

theorem Locates.failed {key : String} {x y y' : Session k (Simulator k)} {f : Failure}
    (abreast : Abreast key x (.error f : Except Failure (Presence k)) y y') :
    Locates key x (.error f) y y' :=
  ⟨abreast, fun _ => nofun⟩

theorem Locates.found {key : String} {x y y' : Session k (Simulator k)} {h : HostedOf k}
    (abreast : Abreast key x (.ok (.found h) : Except Failure (Presence k)) y y')
    (aims : Aims key y) : Locates key x (.ok (.found h)) y y' :=
  ⟨abreast, fun _ same => ⟨aims, h, (Except.ok.inj same).symm⟩⟩

/-- What two runs of a sync come to on the one resource that they find. -/
structure Attended (key : String) (x : Session k (Simulator k)) (answer : Except Failure α)
    (y y' : Session k (Simulator k)) : Prop where
  tends : Tends key x y
  aims : ∀ a, answer = .ok a → Aims key y
  spec : y'.spec.untimed = y.spec.untimed
  there : y'.world.hosted.get? key = y.world.hosted.get? key
  heeded : x.token = .live → ∀ f, answer = .error f → f.isCancelled = false

theorem Abreast.attended {key : String} {x y y' : Session k (Simulator k)} {f : Failure}
    (abreast : Abreast key x (.error f : Except Failure β) y y') :
    Attended key x (.error f : Except Failure α) y y' :=
  ⟨abreast.tends, fun _ => nofun, congrArg Spec.untimed abreast.beside.spec, abreast.beside.there,
    abreast.error.heeded⟩

namespace Run.Agrees

variable {settings settings' : RunSettings} {clock clock' now now' : Instant} {key : String}
  {x x' : Session k (Simulator k)}

theorem prepare {post : Except Failure Unit → Session k (Simulator k) →
      Session k (Simulator k) → Prop} (same : x'.spec = x.spec)
    (accepted : x.spec.prepare.2 = .ok ())
    (holds : post (.ok ()) { x with spec := x.spec.prepare.1 }
      { x' with spec := x'.spec.prepare.1 }) :
    Run.Agrees Engine.prepare Engine.prepare x x' post := by
  unfold Engine.prepare
  rw [same] at holds
  refine bind (spec same (bind (modifySpec ?_)))
  have verdict : x.spec.complete.accept = .ok () := accepted
  simp only [verdict]
  exact pure holds

/-! ## Changes and tags -/

theorem applyOne (c : k.Change) (beside : Beside key x x') (aims : Aims key x) :
    ((settings.engine clock k).applyOne c).Agrees ((settings'.engine clock' k).applyOne c) x x'
      (Abreast key x) := by
  unfold Engine.applyOne
  refine bind (spec beside.spec (tryCatch (bind ?_)))
  refine modified (c := .update _ c) (fun _ => rfl) beside aims.found ?_
  rintro (f | _) y y' abreast
  · dsimp only
    split
    · exact pure abreast.ok
    · exact throw abreast.error
  · exact pure abreast.ok

theorem applyAll (cs : List k.Change) (beside : Beside key x x') (aims : Aims key x) :
    ((settings.engine clock k).applyAll cs).Agrees ((settings'.engine clock' k).applyAll cs) x x'
      (Abreast key x) := by
  induction cs generalizing x x' with
  | nil => exact pure (.refl beside)
  | cons c cs inductionHypothesis =>
    unfold Engine.applyAll
    refine bind ((applyOne c beside aims).mono ?_)
    rintro (f | one) y y' first
    · exact first.error
    refine bind ((inductionHypothesis first.beside (first.tends.aims aims)).mono ?_)
    rintro (f | others) z z' second
    · exact (first.trans second).error
    · exact pure (first.trans second).ok

theorem refresh (beside : Beside key x x') (aims : Aims key x) :
    (settings.engine clock k).refresh.Agrees (settings'.engine clock' k).refresh x x'
      (Abreast key x) := by
  unfold Engine.refresh
  refine bind (spec beside.spec (bind (get beside aims.found ?_)))
  rintro (f | h) y y' abreast - -
  · exact abreast.error
  · exact modifySpec (abreast.respec (·.observe h) rfl fun _ => rfl)

theorem reconcileTags (tags : Tags) (beside : Beside key x x') (aims : Aims key x) :
    ((settings.engine clock k).reconcileTags tags).Agrees
      ((settings'.engine clock' k).reconcileTags tags) x x' (Abreast key x) := by
  have removals {y y' : Session k (Simulator k)} (identifier : String) (plan : TagPlan)
      (beside : Beside key y y') (aimed : Host.find? y.world.hosted identifier = some key) :
      Run.Agrees (if (!plan.remove.isEmpty) = true then do
          Engine.call .untag ((settings.engine clock k).gateway.untag identifier plan.remove)
          Pure.pure plan
        else Pure.pure plan) (if (!plan.remove.isEmpty) = true then do
          Engine.call .untag ((settings'.engine clock' k).gateway.untag identifier plan.remove)
          Pure.pure plan
        else Pure.pure plan) y y' (Abreast key y) := by
    split
    · refine bind (modified (c := .untag _ _) (fun _ => rfl) beside aimed ?_)
      rintro (f | _) z z' abreast
      · exact abreast.error
      · exact pure abreast.ok
    · exact pure (.refl beside)
  unfold Engine.reconcileTags
  refine bind (spec beside.spec ?_)
  dsimp only
  split
  · refine bind (modified (c := .tag _ _) (fun _ => rfl) beside aims.found ?_)
    rintro (f | _) y y' first
    · exact first.error
    · have aimed := (first.tends.find?_eq x.spec.identifier).trans aims.found
      exact (removals _ _ first.beside aimed).mono fun _ _ _ second => first.trans second
  · exact removals _ _ beside aims.found

/-! ## Looking for the resource -/

theorem locateByName (beside : Beside key x x') (consistent : Consistent x.world.hosted)
    (unknown : x.spec.identifier = "") (named : Host.find? x.world.hosted x.spec.name = some key) :
    (settings.engine clock k).locateByName.Agrees (settings'.engine clock' k).locateByName x x'
      (Locates key x) := by
  unfold Engine.locateByName
  refine bind (spec beside.spec (bind (presence beside ?_)))
  rintro (f | there) y y' first answered kept
  · exact .failed first.error
  obtain rfl : there = true := by rw [answered there rfl, named, Option.isSome_some]
  have named' := (first.tends.find?_eq x.spec.name).trans named
  refine bind (get first.beside named' ?_)
  rintro (f | h) z z' second read kept'
  · exact .failed (first.trans second).error
  -- What is read stands under its own identifier.
  have found := read h rfl
  obtain ⟨known, own⟩ := (consistent.of_titles first.tends.tended.titles) key h found
  have aims : Aims key { z with spec := z.spec.withIdentifier h.identifier } := by
    refine ⟨own ▸ known, (second.tends.find?_eq h.identifier).trans ?_⟩
    rw [own]
    exact Host.find?_of_contains (Dict.contains_iff.mpr ⟨h, found⟩)
  have located := (first.trans second).respec (a := Presence.found h)
    (·.withIdentifier h.identifier) rfl fun earlier =>
      absurd (by rw [kept', kept, unknown]) earlier.known
  exact bind (modifySpec (pure (.found located aims)))

theorem locate (beside : Beside key x x') (consistent : Consistent x.world.hosted)
    (sought : x.spec.sought? x.world.hosted = some key) :
    (settings.engine clock k).locate.Agrees (settings'.engine clock' k).locate x x'
      (Locates key x) := by
  unfold Engine.locate
  refine bind (spec beside.spec ?_)
  dsimp only
  by_cases unknown : x.spec.identifier = ""
  · simp only [String.isEmpty_iff.mpr unknown, if_true]
    rw [Spec.sought?, if_pos unknown, Option.none_or] at sought
    exact locateByName beside consistent unknown sought
  have known : x.spec.identifier.isEmpty = false := by simpa using unknown
  simp only [known, Bool.false_eq_true, if_false]
  rw [Spec.sought?, if_neg unknown] at sought
  refine bind (presence beside ?_)
  rintro (f | there) y y' first answered kept
  · exact .failed first.error
  obtain rfl := answered there rfl
  cases found : Host.find? x.world.hosted x.spec.identifier with
  | some key' =>
    rw [found, Option.some_or] at sought
    obtain rfl := Option.some.inj sought
    refine bind (get first.beside ((first.tends.find?_eq _).trans found) ?_)
    rintro (f | h) z z' second - -
    · exact .failed (first.trans second).error
    · exact pure (.found (first.trans second).ok ((first.trans second).tends.aims ⟨unknown, found⟩))
  | none =>
    rw [found, Option.none_or] at sought
    -- The identifier leads nowhere and is forgotten; from here on only the name counts.
    have astray : Aims key y → False := by
      rintro ⟨-, aimed⟩
      rw [first.tends.find?_eq, kept, found] at aimed
      cases aimed
    have forgot := first.respec (a := ()) (fun s => (s.withIdentifier "").clearObserved) rfl
      fun aims => (astray aims).elim
    have named : Host.find? y.world.hosted y.spec.name = some key := by
      rw [first.tends.find?_eq, kept, sought]
    refine bind (modifySpec (bind ((locateByName forgot.beside
      (consistent.of_titles first.tends.tended.titles) rfl named).mono ?_)))
    rintro (f | p) z z' ⟨second, located⟩
    · exact .failed (forgot.trans second)
    · obtain ⟨aims, h, rfl⟩ := located p rfl
      exact pure (.found (forgot.trans second) aims)

/-! ## The whole sync -/

theorem settle (h : HostedOf k) (beside : Beside key x x') (aims : Aims key x) :
    ((settings.engine clock k).settle (.found h)).Agrees
      ((settings'.engine clock' k).settle (.found h))
      x x' (Abreast key x) := by
  have seen : Abreast key x (.ok () : Except Failure Unit) { x with spec := x.spec.observe h }
      { x' with spec := x'.spec.observe h } :=
    (Abreast.refl (a := ()) beside).respec (·.observe h) rfl fun _ => rfl
  unfold Engine.settle Engine.converge
  have aims : Aims key { x with spec := x.spec.observe h } := aims.respec rfl
  refine bind (bind (modifySpec (bind (spec seen.beside.spec
    ((applyAll _ seen.beside aims).mono ?_)))))
  rintro (f | made) y y' abreast
  · exact (seen.trans abreast).error
  · exact pure (seen.trans abreast).ok

/-- The last part of a sync sets the time if nothing stopped it before. -/
theorem conclude (action : SyncAction) (applied : List k.Change) (warnings : List Warning)
    (tags : Tags) (beside : Beside key x x') (aims : Aims key x) :
    ((settings.engine clock k).conclude now action applied warnings tags).Agrees
      ((settings'.engine clock' k).conclude now' action applied warnings tags) x x' fun
      | .error f, y, y' => Abreast key x (.error f : Except Failure (SyncOutcome k)) y y'
      | .ok o, y, y' => o.action = action ∧ ∃ z z', Abreast key x (.ok o) z z' ∧
          y = { z with spec := z.spec.syncedAgain now } ∧
          y' = { z' with spec := z'.spec.syncedAgain now' } := by
  have rest {y y' : Session k (Simulator k)}
      (first : Abreast key x (.ok () : Except Failure Unit) y y') :
      Run.Agrees (do
        let plan ← (settings.engine clock k).reconcileTags tags
        Engine.modifySpec fun s => { s with shared := { s.shared with lastSyncTime := some now } }
        Pure.pure (⟨action, applied, plan, warnings⟩ : SyncOutcome k)) (do
        let plan ← (settings'.engine clock' k).reconcileTags tags
        Engine.modifySpec fun s => { s with shared := { s.shared with lastSyncTime := some now' } }
        Pure.pure (⟨action, applied, plan, warnings⟩ : SyncOutcome k)) y y' fun
        | .error f, y, y' => Abreast key x (.error f : Except Failure (SyncOutcome k)) y y'
        | .ok o, y, y' => o.action = action ∧ ∃ z z', Abreast key x (.ok o) z z' ∧
            y = { z with spec := z.spec.syncedAgain now } ∧
            y' = { z' with spec := z'.spec.syncedAgain now' } := by
    refine bind ((reconcileTags tags first.beside (first.tends.aims aims)).mono ?_)
    rintro (f | plan) z z' second
    · exact (first.trans second).error
    · exact bind (modifySpec (pure ⟨rfl, z, z', (first.trans second).ok, rfl, rfl⟩))
  unfold Engine.conclude
  dsimp only
  split
  · refine bind ((refresh beside aims).mono ?_)
    rintro (f | _) y y' first
    · exact first.error
    · exact rest first
  · exact rest (.refl beside)

/-- A sync once its specification is prepared. -/
theorem pursue (beside : Beside key x x') (consistent : Consistent x.world.hosted)
    (sought : x.spec.sought? x.world.hosted = some key) :
    Run.Agrees (do
      let presence ← (settings.engine clock k).locate
      let (action, (applied, warnings), tags) ← (settings.engine clock k).settle presence
      (settings.engine clock k).conclude now action applied warnings tags) (do
      let presence ← (settings'.engine clock' k).locate
      let (action, (applied, warnings), tags) ← (settings'.engine clock' k).settle presence
      (settings'.engine clock' k).conclude now' action applied warnings tags) x x'
      (Attended key x) := by
  refine bind ((locate beside consistent sought).mono ?_)
  rintro (f | p) y y' ⟨first, located⟩
  · exact first.attended
  obtain ⟨aims, h, rfl⟩ := located p rfl
  refine bind ((settle h first.beside aims).mono ?_)
  rintro (f | ⟨action, ⟨applied, warnings⟩, tags⟩) z z' second
  · exact (first.trans second).attended
  refine (conclude action applied warnings tags second.beside (second.tends.aims aims)).mono ?_
  rintro (f | o) last last' ended
  · exact (first.trans (second.trans ended)).attended
  · obtain ⟨-, v, v', third, rfl, rfl⟩ := ended
    have whole := (first.trans (second.trans third)).respec (a := o) (·.syncedAgain now) rfl
      fun _ => rfl
    have aims := third.tends.aims (second.tends.aims aims)
    refine ⟨whole.tends, fun _ _ => aims.respec rfl, ?_, third.beside.there, fun _ _ => nofun⟩
    -- The times of the two runs are all that their specifications differ in.
    show v'.spec.untimed = v.spec.untimed
    rw [third.beside.spec]

/-- A sync of an accepted specification whose resource is found. -/
theorem sync (settings settings' : RunSettings) (clock clock' now now' : Instant)
    (beside : Beside key x x') (consistent : Consistent x.world.hosted)
    (accepted : x.spec.prepare.2 = .ok ())
    (sought : x.spec.prepare.1.sought? x.world.hosted = some key) :
    ((settings.engine clock k).sync now).Agrees ((settings'.engine clock' k).sync now') x x'
      (Attended key { x with spec := x.spec.prepare.1 }) := by
  rw [Engine.sync_eq, Engine.sync_eq]
  exact bind (prepare beside.spec accepted
    (pursue (beside.modifySpec fun s => s.prepare.1) consistent sought))

end Run.Agrees

end DesiredState
