import DesiredState.Proofs.Reconcile.Deletion
import DesiredState.Proofs.Reconcile.Idempotence

/-!
# Whose identifier a sync leaves

After a sync the specification holds the identifier under which its resource is hosted, so that a
deletion takes away that resource and no other.  There is one exception: an identifier that is no
key, but the name of a resource, is taken for the identifier of that resource and stays as it is.
Nothing is hosted under it, so a deletion answers that it has deleted, and removes nothing.

Contents:

* `Owns` — the identifier is that of the resource that was read or created.
* `Stray` — the identifier is still that name, and deleting removes nothing.
* `sync_owns` — the main result, for identifiers of either sort.
* `not_owns_of_name` — a key that is known by its name.
-/

namespace DesiredState

variable {k : Kind} {settings : RunSettings} {clock now : Instant} {s s' : Spec k}
  {w w' : Simulator k} {h : HostedOf k}

/-- The last identifier is the key of the resource that a sync read or created, and deletion under
policy `Delete` removes that resource and nothing else. -/
structure Owns (s : Spec k) (w : Simulator k) (s' : Spec k) (w' : Simulator k) : Prop where
  key : ∃ h, w'.hosted.get? s'.identifier = some h ∧ h.identifier = s'.identifier
  source : (∃ h, s.resource? w.toHost = some h ∧ s'.identifier = h.identifier) ∨
    s.resource? w.toHost = none ∧ s'.identifier = k.identifier w.serial.next ∧
      w.hosted.contains s'.identifier = false
  deleted : ∀ settings : RunSettings, ∀ clock, s'.effectivePolicy = .ok .delete →
    ((settings.engine clock k).delete).Ensures s' w' fun answer s'' w'' =>
      answer = .ok .delete ∧ s'' = s' ∧ w''.hosted = w'.hosted.erase s'.identifier

/-- The last identifier is the first one and no key; nothing was changed on the host, and deletion
under policy `Delete` does not remove anything either. -/
structure Stray (s : Spec k) (w : Simulator k) (s' : Spec k) (w' : Simulator k) : Prop where
  same : s'.identifier = s.identifier
  keyless : w'.hosted.contains s'.identifier = false
  unchanged : w'.hosted = w.hosted
  deleted : ∀ settings : RunSettings, ∀ clock, s'.effectivePolicy = .ok .delete →
    ((settings.engine clock k).delete).Ensures s' w' fun answer s'' w'' =>
      answer = .ok .delete ∧ s'' = s' ∧ w''.hosted = w'.hosted

open Run.Ensures

theorem Finished.owns {o : SyncOutcome k} (finished : Finished s clock now w o s' w')
    (consistent : Consistent w.hosted) (quiet : ∀ op, w.faults op = none)
    (fresh : w.hosted.contains (k.identifier w.serial.next) = false) : Owns s w s' w' := by
  obtain ⟨-, -, spec, world⟩ := finished
  have identifier : s'.identifier = (s.origin clock w).identifier := by
    rw [spec]
    rfl
  refine ⟨⟨s.settled (s.origin clock w), ?_, identifier.symm⟩, ?_, ?_⟩
  · rw [world.hosted, identifier, Dict.get?_insert_self]
  · rw [identifier]
    cases found : s.resource? w.toHost with
    | some h => exact .inl ⟨h, rfl, by rw [Spec.origin_of_resource? found]⟩
    | none =>
      rw [Spec.origin_of_missing found]
      exact .inr ⟨rfl, rfl, fresh⟩
  · intro settings clock' allowed
    have known := s.identifier_origin_ne_empty consistent clock
    exact delete_held allowed (identifier ▸ known) fun op => world.spent.quiet (quiet op)

/-! ## Identifiers that are names -/

/-- What is left of a sync that has strayed and answers: the host as it was, and the same
identifier. -/
theorem settle_astray (absent : w.hosted.get? s.identifier = none) :
    Run.Ensures (do
      let (action, (applied, warnings), tags) ← (settings.engine clock k).settle (.found h)
      (settings.engine clock k).conclude now action applied warnings tags) s w fun answer s' w' =>
        ∀ o, answer = .ok o → s'.identifier = s.identifier ∧ Spent w w' ∧ w'.hosted = w.hosted := by
  have ending : ∀ {action warnings w'}, Spent w w' → w'.hosted = w.hosted →
      ((settings.engine clock k).conclude now action [] warnings h.tags).Ensures (s.observe h) w'
        fun answer s' w' => ∀ o, answer = .ok o →
          s'.identifier = s.identifier ∧ Spent w w' ∧ w'.hosted = w.hosted := by
    intro action warnings w' spent same
    refine (conclude_astray (s := s.observe h) (same ▸ absent)).mono fun answer s' w'' clean o ok => ?_
    obtain ⟨-, -, rfl, rfl⟩ := clean o ok
    exact ⟨rfl, spent, same⟩
  unfold Engine.settle Engine.converge
  refine bind (bind (bind (modifySpec (bind (spec (applyAll_astray absent ?_ ?_ ?_))))))
  · exact fun _ _ => nofun
  · exact fun warnings w' _ spent same => pure (ending spent same)
  · exact fun _ => pure (ending (.refl w) rfl)

/-- The resource of that name is what the sync goes on with, and it answers only if it has not
written anything. -/
theorem sync_stray (consistent : Consistent w.hosted) (stray : ¬s.Placed w.hosted)
    (accepted : s.prepare.2 = .ok ()) :
    ((settings.engine clock k).sync now).Ensures s w fun answer s' w' =>
      ∀ o, answer = .ok o → s'.identifier = s.identifier ∧ Spent w w' ∧ w'.hosted = w.hosted := by
  simp only [Spec.Placed, not_or, Bool.not_eq_true, Dict.contains_eq_false_iff] at stray
  obtain ⟨known, absent, named⟩ := stray
  have present : (Host.find? w.hosted s.identifier).isSome = true := by
    rw [Option.isSome_iff_ne_none]
    exact fun missing => named (Host.find?_eq_none_iff.mp missing).2
  obtain ⟨h, there⟩ : ∃ h, w.current? s.identifier = some h :=
    Option.isSome_iff_exists.mp (Host.isSome_find? consistent _ ▸ present)
  rw [Engine.sync_eq]
  refine bind (prepare accepted (bind ?_))
  -- Completion leaves the identifier as it is.
  have same : s.prepare.1.identifier = s.identifier := rfl
  generalize s.prepare.1 = t at same ⊢
  rw [← same] at known absent present there ⊢
  unfold Engine.locate
  refine bind (spec ?_)
  dsimp only
  rw [if_neg (by simpa using known)]
  refine bind (presence (fun f w' _ => nofun) fun w' asked => ?_)
  rw [present]
  refine bind (get ((asked.current?_eq _).trans there) (fun f w'' _ => nofun) fun w'' read => pure ?_)
  have idle := asked.still read
  refine (settle_astray (by rwa [idle.hosted])).mono fun answer s' w' clean o ok => ?_
  obtain ⟨kept, spent, unchanged⟩ := clean o ok
  exact ⟨kept, idle.spent.trans spent, unchanged.trans idle.hosted⟩

/-! ## The main result -/

/-- Without faults a sync that answers leaves the key of its resource as the identifier, unless the
first identifier was no key but the name of a resource: that one stays. -/
theorem sync_owns (settings : RunSettings) (clock now : Instant) (consistent : Consistent w.hosted)
    (quiet : ∀ op, w.faults op = none) (fresh : w.hosted.contains (k.identifier w.serial.next) = false)
    {token : Token} {o : SyncOutcome k} {last : Session k (Simulator k)}
    (ran : ((settings.engine clock k).sync now).run ⟨s, w, token⟩ = (.ok o, last)) :
    (s.Placed w.hosted → Owns s.prepare.1 w last.spec last.world) ∧
      (¬s.Placed w.hosted → Stray s w last.spec last.world) := by
  have live := (settings.engine clock k).run_sync_live now ran
  have accepted : s.prepare.2 = .ok () := by
    cases verdict : s.prepare.2 with
    | ok => rfl
    | error v => nomatch ((sync_refused verdict).elim live).1.1
  refine ⟨fun placed => ?_, fun stray => ?_⟩
  · obtain ⟨⟨_, -, finished⟩, -⟩ := (sync_quiet accepted consistent placed quiet).elim live
    exact finished.owns consistent quiet fresh
  · obtain ⟨same, spent, unchanged⟩ := ((sync_stray consistent stray accepted).elim live).1 o rfl
    simp only [Spec.Placed, not_or, Bool.not_eq_true] at stray
    obtain ⟨known, keyless, -⟩ := stray
    rw [← same, ← unchanged] at keyless
    refine ⟨same, keyless, unchanged, fun settings' clock' allowed => ?_⟩
    refine (delete_held allowed (same ▸ known) fun op => spent.quiet (quiet op)).mono ?_
    rintro answer s'' w'' ⟨deleted, kept, erased⟩
    rw [Dict.erase_of_get?_none (Dict.contains_eq_false_iff.mp keyless)] at erased
    exact ⟨deleted, kept, erased⟩

namespace Sample

/-- The sample key as it is hosted, to be deleted with its specification. -/
def held (identifier : String) : Spec .cryptoKey where
  name := "alias/app"
  desired := ⟨"old", .encryptDecrypt, .symmetricDefault, some true, false, some 30⟩
  shared := { Meta.empty with identifier := identifier, deletionPolicy := some "Delete" }
  observed := ⟨"arn:key-0", "Enabled"⟩

end Sample

theorem sync_owns_key :
    ∃ last : Session .cryptoKey (Simulator .cryptoKey),
      (∃ o, ((({} : RunSettings).engine .epoch .cryptoKey).sync .epoch).run
          ⟨Sample.held "", Sample.host fun _ => none, .live⟩ = (.ok o, last)) ∧
        last.spec.effectivePolicy = .ok .delete ∧
        Owns (Sample.held "").prepare.1 (Sample.host fun _ => none) last.spec last.world := by
  have consistent := Sample.consistent_host fun _ => none
  have first : ((({} : RunSettings).engine .epoch .cryptoKey).sync .epoch).Ensures
      (Sample.held "") (Sample.host fun _ => none) _ :=
    Run.Ensures.sync_quiet (by decide) consistent (.inl rfl) fun _ => rfl
  obtain ⟨answer, s', w', ran, o, rfl, finished⟩ := first
  have owns := sync_owns {} .epoch .epoch consistent (fun _ => rfl) (by decide) ran
  refine ⟨⟨s', w', .live⟩, ⟨o, ran⟩, ?_, owns.1 (.inl rfl)⟩
  show s'.effectivePolicy = .ok .delete
  rw [finished.spec]
  decide

/-- A key that is known by its name is synced and deleted without complaint, and stays. -/
theorem not_owns_of_name :
    (Consistent (Sample.host fun _ => none).hosted ∧
        (Sample.host fun _ => none).hosted.contains (Kind.identifier .cryptoKey 1) = false) ∧
      ((({} : RunSettings).engine .epoch .cryptoKey).sync .epoch).Ensures
        (Sample.held "alias/app") (Sample.host fun _ => none) fun answer s' w' =>
          answer = .ok ⟨.unchanged, [], .empty, []⟩ ∧
            w'.hosted.contains s'.identifier = false ∧ s'.effectivePolicy = .ok .delete ∧
            ((({} : RunSettings).engine .epoch .cryptoKey).delete).Ensures s' w'
              fun answer _ w'' => answer = .ok .delete ∧ w''.hosted = w'.hosted := by
  have rest : AtRest (Sample.held "alias/app") (Sample.host fun _ => none).toHost Sample.key :=
    ⟨⟨by decide, by decide⟩, by decide, by decide, by decide, by decide, by decide⟩
  refine ⟨⟨Sample.consistent_host _, by decide⟩, _, _, _, run_sync_of_atRest rest fun _ => rfl, rfl, ?_⟩
  exact ⟨by decide, by decide, _, _, _, rfl, rfl, by decide⟩

end DesiredState
