import DesiredState.Proofs.Reconcile.Sync

/-!
# Convergence

On a consistent host without faults a sync fails only when the specification is refused.  Otherwise
the hosted resource becomes what the specification asks for and nothing else is touched, whether the
resource was there under its identifier, only under its name, or not at all.

Contents:

* `Run.Ensures.sync_refused` — a refused specification costs no call.
* `Run.Ensures.sync_quiet` — a sync without faults does everything.
* `Converged`, `sync_converges` — the main result.
-/

namespace DesiredState

variable {k : Kind} {σ : Type} {settings : RunSettings} {clock now : Instant} {s s' : Spec k}
  {w w' : Simulator k} {answer : Except Failure (SyncOutcome k)}

/-- A refused specification is completed, and that is all. -/
theorem Run.Ensures.sync_refused {e : Engine k σ} {w : σ} {v : ValidationError}
    (refused : s.prepare.2 = .error v) :
    (e.sync now).Ensures s w fun answer s' w' =>
      answer = .error (.validation v) ∧ s' = s.prepare.1 ∧ w' = w := by
  rw [Engine.sync_eq]
  unfold Engine.prepare
  refine bind (bind (spec (bind (modifySpec ?_))))
  have verdict : s.complete.accept = .error v := refused
  simp only [verdict]
  exact throw ⟨rfl, rfl, rfl⟩

/-- Without faults a sync of an accepted specification does everything. -/
theorem Run.Ensures.sync_quiet (accepted : s.prepare.2 = .ok ()) (consistent : Consistent w.hosted)
    (placed : s.Placed w.hosted) (quiet : ∀ op, w.faults op = none) :
    ((settings.engine clock k).sync now).Ensures s w fun answer s' w' =>
      ∃ o, answer = .ok o ∧ Finished s.prepare.1 clock now w o s' w' := by
  refine (sync accepted consistent placed).mono fun answer s' w' ends => ?_
  rcases ends with finished | ⟨-, halfway⟩
  · exact finished
  · cases halfway with
    | waiting _ broken => exact broken.struck.absurd_of_quiet quiet
    | begun _ _ _ _ broken => exact broken.struck.absurd_of_quiet quiet

/-- If new identifiers are no keys yet, a sync begins with what stands under the identifier that it
ends with. -/
theorem Spec.get?_identifier_origin (consistent : Consistent w.hosted)
    (fresh : w.hosted.contains (k.identifier w.serial.next) = false) (s : Spec k) (clock : Instant) :
    w.hosted.get? (s.origin clock w).identifier = s.resource? w.toHost := by
  cases found : s.resource? w.toHost with
  | some h =>
    rw [origin_of_resource? found]
    exact (get?_of_resource? consistent found).2
  | none =>
    rw [origin_of_missing found]
    exact Dict.contains_eq_false_iff.mp fresh

/-- What a sync of a prepared specification came to: among the resources hosted afterwards, `h` is
the one that the specification asks for, and all others are as before. -/
structure Converged (s : Spec k) (now : Instant) (hosted : Dict (HostedOf k)) (o : SyncOutcome k)
    (s' : Spec k) (hosted' : Dict (HostedOf k)) (h : HostedOf k) : Prop where
  warnings : o.warnings = []
  there : hosted'.get? s'.identifier = some h
  others : ∀ key, key ≠ s'.identifier → hosted'.get? key = hosted.get? key
  diff : s'.diff h = []
  tags : h.tags = s.settledTags ((hosted.get? s'.identifier).elim .empty Hosted.tags)
  frame : ∀ old, hosted.get? s'.identifier = some old →
    h.identifier = old.identifier ∧ h.name = old.name ∧
      k.Untouched o.applied old.attributes h.attributes
  intent : s'.intent = s.intent
  observed : s'.observed = k.rules.observe h.identifier h.attributes
  time : s'.shared.lastSyncTime = some now

/-- Without faults a sync of an accepted specification converges. -/
theorem sync_converges (settings : RunSettings) (clock now : Instant)
    (consistent : Consistent w.hosted) (placed : s.Placed w.hosted)
    (quiet : ∀ op, w.faults op = none)
    (fresh : w.hosted.contains (k.identifier w.serial.next) = false) :
    ((settings.engine clock k).sync now).Ensures s w fun answer s' w' =>
      ((∃ o, answer = .ok o) ↔ s.prepare.2 = .ok ()) ∧
        ∀ o, answer = .ok o → ∃ h, Converged s.prepare.1 now w.hosted o s' w'.hosted h := by
  cases accepted : s.prepare.2 with
  | error v =>
    refine (Run.Ensures.sync_refused accepted).mono ?_
    rintro answer s' w' ⟨rfl, -, -⟩
    exact ⟨⟨nofun, nofun⟩, nofun⟩
  | ok =>
    refine (Run.Ensures.sync_quiet accepted consistent placed quiet).mono ?_
    generalize s.prepare.1 = s at *
    rintro answer s' w' ⟨o, rfl, warnings, applied, spec, world⟩
    refine ⟨⟨fun _ => rfl, fun _ => ⟨o, rfl⟩⟩, ?_⟩
    rintro _ ⟨⟩
    -- Old tags and old attributes are looked up under the identifier at the end, where nothing was
    -- hosted before if the resource is new.
    have key := Spec.get?_identifier_origin consistent fresh s clock
    have tags : (s.origin clock w).tags = (s.resource? w.toHost).elim .empty Hosted.tags := by
      cases found : s.resource? w.toHost with
      | some h => rw [Spec.origin_of_resource? found, Option.elim]
      | none => rw [Spec.origin_of_missing found, Option.elim, Spec.materialize]
    subst spec
    refine ⟨s.settled (s.origin clock w), warnings, ?_, ?_, s.diff_settled _, ?_, ?_, rfl, rfl, rfl⟩
    · rw [world.hosted]
      exact Dict.get?_insert_self ..
    · intro key other
      rw [world.hosted]
      exact Dict.get?_insert_of_ne _ _ other
    · show s.settledTags (s.origin clock w).tags =
        s.settledTags ((w.hosted.get? (s.origin clock w).identifier).elim .empty Hosted.tags)
      rw [key, tags]
    · intro old there
      have begins : s.origin clock w = old := Spec.origin_of_resource? (key.symm.trans there) clock
      rw [applied, begins]
      exact ⟨rfl, rfl, k.frameLaws.applyAll _ _⟩

/-! ## A key that needs work -/

namespace Sample

/-- A hosted key with an old description that does not rotate. -/
def key : HostedOf .cryptoKey :=
  ⟨"key-0", "alias/app", .empty, ⟨"arn:key-0", "old", .symmetricDefault, true, false⟩⟩

/-- The same key as it should be, known by its name only. -/
def spec : Spec .cryptoKey :=
  .ofDesired .cryptoKey "alias/app" ⟨"new", .encryptDecrypt, .symmetricDefault, none, true, none⟩

def host (faults : Operation → Option GatewayError) : Simulator .cryptoKey :=
  ⟨⟨Dict.empty.insert key.identifier key, [], faults⟩, 1⟩

theorem consistent_host (faults : Operation → Option GatewayError) :
    Consistent (host faults).hosted :=
  Consistent.empty.insert (by decide)

theorem accepted : spec.prepare.2 = .ok () := by decide

end Sample

theorem sync_converges_key :
    (((({} : RunSettings).engine .epoch .cryptoKey).sync .epoch).Ensures Sample.spec
      (Sample.host fun _ => none) fun answer s' w' =>
        ∃ o h, answer = .ok o ∧
          Converged Sample.spec.prepare.1 .epoch (Sample.host fun _ => none).hosted o s' w'.hosted
            h) := by
  refine (sync_converges {} .epoch .epoch (Sample.consistent_host _) (.inl rfl) (fun _ => rfl)
    (by decide)).mono ?_
  rintro answer s' w' ⟨succeeds, converged⟩
  obtain ⟨o, rfl⟩ := succeeds.mpr Sample.accepted
  obtain ⟨h, converged⟩ := converged o rfl
  exact ⟨o, h, rfl, converged⟩

end DesiredState
