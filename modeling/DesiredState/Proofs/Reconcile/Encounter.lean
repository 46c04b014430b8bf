import DesiredState.Proofs.Host.Numbering
import DesiredState.Proofs.Reconcile.Footprint

/-!
# How far a sync gets

Wherever a sync is cut, and whatever fails, it has come to one of three points with its resource: it
has not learnt of any, and the host is as it was; it has learnt of the one that is hosted, and that is
hosted still under its title; or it has created one, and learnt of it.  That a resource is created
without its identifier being kept does not happen.

Contents:

* `Engine.answerOnIdentifier_ne_false` — what is hosted is not denied.
* `Encounter` — the three points.
* `Run.Yields.sync_encounter` — the main result.
-/

namespace DesiredState

variable {k : Kind}

/-- What is hosted under the identifier is not denied. -/
theorem Engine.answerOnIdentifier_ne_false {settings : RunSettings} {clock : Instant}
    {x : Session k (Simulator k)} (there : x.world.hosted.contains x.spec.identifier = true) :
    (settings.engine clock k).answerOnIdentifier x ≠ .ok false := by
  have asked : (Engine.call .presence
      ((settings.engine clock k).gateway.presence x.spec.identifier)).Yields x
      fun answer _ => answer ≠ .ok false := by
    refine .presence (fun _ _ _ => nofun) fun _ _ => ?_
    rw [Host.find?_of_contains there]
    nofun
  exact asked.ends

/-- What a sync has learnt of its resource, and what it has left of the host: the identifier is unknown
as it was, it is that of a hosted resource, or that of a new one. -/
inductive Encounter (s : Spec k) (w : Simulator k) (identifier : String) (w' : Simulator k) : Prop
  | missed (unknown : s.identifier = "") (none : identifier = "")
      (titles : ∀ key, titleAt w'.hosted key = titleAt w.hosted key) (serial : w'.serial = w.serial)
  | found {h : HostedOf k} (there : s.resource? w.toHost = some h) (same : identifier = h.identifier)
      (titles : ∀ key, titleAt w'.hosted key = titleAt w.hosted key) (serial : w'.serial = w.serial)
  | created (missing : s.resource? w.toHost = none) (new : identifier = k.identifier w.serial.next)
      (title : titleAt w'.hosted identifier = some (identifier, s.name))
      (others : ∀ key, key ≠ identifier → w'.hosted.get? key = w.hosted.get? key)
      (serial : w'.serial = w.serial.succ)

section

variable {s : Spec k} {w : Simulator k} {answer : Except Failure (SyncOutcome k)}
  {asked : Except Failure Bool} {y : Session k (Simulator k)}

/-- What is there for a sync to find under the identifier is kept in mind. -/
theorem Encounter.of_known (consistent : Consistent w.hosted) (known : s.identifier ≠ "")
    (there : w.hosted.contains s.identifier = true) (admitted : asked ≠ .ok false)
    (lifecycle : Lifecycle s asked w answer y) (marks : Marks s w answer y) :
    Encounter s w y.spec.identifier y.world := by
  obtain ⟨h, hosted⟩ := Dict.contains_iff.mp there
  obtain ⟨-, own⟩ := consistent _ h hosted
  have found : s.resource? w.toHost = some h := Spec.resource?_of_get? hosted
  have same : y.spec.identifier = h.identifier := (lifecycle.kept known admitted).trans own.symm
  cases marks with
  | idle _ still serial => exact .found found same (fun key => by rw [still]) serial
  | tended _ tended serial _ => exact .found found same tended.titles serial
  | created missing _ _ =>
    rw [Spec.sought?, if_neg known, Host.find?_of_contains there] at missing
    cases missing

/-- Without an identifier a resource is looked for by its name, and otherwise created. -/
theorem Encounter.of_unknown (consistent : Consistent w.hosted) (unknown : s.identifier = "")
    (lifecycle : Lifecycle s asked w answer y) (marks : Marks s w answer y) :
    Encounter s w y.spec.identifier y.world := by
  have absent : w.hosted.get? s.identifier = none := by
    rw [unknown]
    exact consistent.get?_empty_text
  have byName : s.resource? w.toHost = w.current? s.name := Spec.resource?_of_absent absent
  have sought : s.sought? w.hosted = Host.find? w.hosted s.name := by
    rw [Spec.sought?, if_pos unknown, Option.none_or]
  have present := Host.isSome_find? (w := w.toHost) consistent s.name
  rcases lifecycle.obtained (.inl unknown) with ⟨none, -⟩ | ⟨-, obtained⟩
  · cases marks with
    | idle _ still serial => exact .missed unknown none (fun key => by rw [still]) serial
    | tended _ tended serial _ => exact .missed unknown none tended.titles serial
    | created _ created _ => exact absurd none created.aims.known
  · cases obtained with
    | found there same =>
      have found := byName.trans there
      cases marks with
      | idle _ still serial => exact .found found same (fun key => by rw [still]) serial
      | tended _ tended serial _ => exact .found found same tended.titles serial
      | created missing _ _ =>
        rw [← sought, missing, there] at present
        cases present
    | created missing same serial _ =>
      have fresh := serial ▸ w.serial.succ_ne
      cases marks with
      | idle _ _ serial' => exact absurd serial' fresh
      | tended _ _ serial' _ => exact absurd serial' fresh
      | created _ created _ =>
        exact .created (byName.trans missing) same (same ▸ created.title)
          (fun key other => created.others key (same ▸ other)) serial

end

/-- However a sync of a prepared specification ends, it keeps the intent, and what it has learnt of the
resource is accounted for. -/
theorem Run.Yields.sync_encounter (settings : RunSettings) (clock now : Instant) {s : Spec k}
    {w : Simulator k} (prepared : s.Prepared) (consistent : Consistent w.hosted)
    (held : s.identifier = "" ∨ w.hosted.contains s.identifier = true) (token : Token) :
    ((settings.engine clock k).sync now).Yields ⟨s, w, token⟩ fun _ y =>
      y.spec.intent = s.intent ∧ Encounter s w y.spec.identifier y.world := by
  obtain ⟨intent, marks⟩ := (sync_marks settings clock now s consistent token).ends
  have lifecycle := (sync_lifecycle settings clock now s consistent token).ends.2
  rw [prepared.prepare_eq] at intent marks lifecycle
  refine ⟨intent, ?_⟩
  by_cases unknown : s.identifier = ""
  · exact .of_unknown consistent unknown (lifecycle rfl) marks
  · have there := held.resolve_left unknown
    exact .of_known consistent unknown there (Engine.answerOnIdentifier_ne_false there)
      (lifecycle rfl) marks

end DesiredState
