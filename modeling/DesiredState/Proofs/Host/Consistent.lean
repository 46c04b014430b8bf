import DesiredState.Host.Simulator
import DesiredState.Proofs.Dict

/-!
# Consistent hosts

A host is consistent when its resources stand under their own identifiers.  Then what is found under
a name is also found under its identifier, and a specification has one resource that it speaks of.

Contents:

* `Consistent` — the invariant, and that changes and creation keep it.
* `Spec.Placed` — an identifier that is not the name of a resource.
* `Spec.resource?` — the hosted resource that a specification speaks of.
-/

namespace DesiredState

variable {k : Kind}

/-- Every key is a text with characters and the identifier of its resource. -/
def Consistent (hosted : Dict (HostedOf k)) : Prop :=
  ∀ key h, hosted.get? key = some h → key ≠ "" ∧ h.identifier = key

namespace Consistent

variable {hosted : Dict (HostedOf k)}

theorem empty : Consistent (Dict.empty : Dict (HostedOf k)) := nofun

theorem get?_empty_text (consistent : Consistent hosted) : hosted.get? "" = none := by
  cases found : hosted.get? "" with
  | none => rfl
  | some h => exact absurd rfl (consistent _ _ found).1

theorem insert (consistent : Consistent hosted) {h : HostedOf k} (known : h.identifier ≠ "") :
    Consistent (hosted.insert h.identifier h) := by
  intro key h' found
  rw [Dict.get?_insert] at found
  split at found
  next same =>
    obtain rfl := Option.some.inj found
    exact ⟨same ▸ known, same.symm⟩
  next other => exact consistent key h' found

end Consistent

/-! ## Looking for resources -/

namespace Host

variable {w : Host k} {key : String} {h : HostedOf k}

theorem find?_eq_none_iff {hosted : Dict (HostedOf k)} :
    find? hosted key = none ↔
      hosted.contains key = false ∧ ∀ h ∈ hosted.values, h.name ≠ key := by
  rw [find?]
  split
  next present => simp [present]
  next absent => simp [absent, Dict.findValue?]

theorem current?_of_get? (found : w.hosted.get? key = some h) : w.current? key = some h := by
  have present : w.hosted.contains key = true := Dict.contains_iff.mpr ⟨h, found⟩
  simp [current?, find?, present, found]

/-- What a name leads to stands under its own identifier. -/
theorem get?_of_current? (consistent : Consistent w.hosted) (found : w.current? key = some h) :
    h.identifier ≠ "" ∧ w.hosted.get? h.identifier = some h := by
  obtain ⟨id, -, there⟩ := Option.bind_eq_some_iff.mp found
  obtain ⟨known, same⟩ := consistent id h there
  exact ⟨same ▸ known, same ▸ there⟩

/-- Whatever is present can be read. -/
theorem isSome_find? (consistent : Consistent w.hosted) (key : String) :
    (find? w.hosted key).isSome = (w.current? key).isSome := by
  rw [current?, find?]
  split
  next present =>
    obtain ⟨h, found⟩ := Dict.contains_iff.mp present
    simp [found]
  next absent =>
    -- What has the name as its own also stands under its identifier, so it is found there.
    cases named : w.hosted.findValue? fun h => h.name == key with
    | none => rfl
    | some h =>
      obtain ⟨key', found⟩ := Dict.mem_values_iff.mp (List.mem_of_find?_eq_some named)
      obtain ⟨-, rfl⟩ := consistent key' h found
      simp [found]

end Host

/-! ## The resource of a specification -/

namespace Spec

/-- The identifier is unknown, or it is a key, or no resource has it as a name. -/
def Placed (s : Spec k) (hosted : Dict (HostedOf k)) : Prop :=
  s.identifier = "" ∨ hosted.contains s.identifier = true ∨
    ∀ h ∈ hosted.values, h.name ≠ s.identifier

/-- The hosted resource with the identifier of a specification, or else the one under its name. -/
def resource? (s : Spec k) (w : Host k) : Option (HostedOf k) :=
  (w.hosted.get? s.identifier).or (w.current? s.name)

variable {s t : Spec k} {w : Host k} {h : HostedOf k}

theorem resource?_of_get? (found : w.hosted.get? s.identifier = some h) :
    s.resource? w = some h := by
  simp [resource?, found]

theorem resource?_of_absent (absent : w.hosted.get? s.identifier = none) :
    s.resource? w = w.current? s.name := by
  simp [resource?, absent]

theorem resource?_congr {w' : Host k} (hosted : w'.hosted = w.hosted) :
    s.resource? w' = s.resource? w := by
  rw [resource?, resource?, Host.current?, Host.current?, hosted]

theorem get?_of_resource? (consistent : Consistent w.hosted) (found : s.resource? w = some h) :
    h.identifier ≠ "" ∧ w.hosted.get? h.identifier = some h := by
  -- The identifier counts first; the name counts only if nothing stands under the identifier.
  cases there : w.hosted.get? s.identifier with
  | none =>
    rw [resource?_of_absent there] at found
    exact Host.get?_of_current? consistent found
  | some h' =>
    rw [resource?_of_get? there] at found
    obtain rfl := Option.some.inj found
    obtain ⟨known, same⟩ := consistent _ _ there
    exact ⟨same ▸ known, same ▸ there⟩

end Spec

/-! ## Identifiers -/

theorem Kind.identifier_ne_empty (k : Kind) (n : Nat) : k.identifier n ≠ "" := by
  intro empty
  have length := congrArg String.length empty
  simp [Kind.identifier, String.length_append] at length

end DesiredState
