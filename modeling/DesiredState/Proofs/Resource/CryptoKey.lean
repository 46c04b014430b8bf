import DesiredState.Proofs.Resource.Laws
import DesiredState.Proofs.Text.Trim
import DesiredState.Resource.CryptoKey

/-!
# Encryption keys keep the laws

The slots of a key's changes, what its specification wants, and the laws of `Rules` for it.  A new
key never rotates, so rotation is what follows its creation.
-/

namespace DesiredState.CryptoKey

def Change.slot : Change → Nat
  | .description _ => 0
  | .enabled _ => 1
  | .rotation _ => 2

def wants (d : Desired) : List Change :=
  [.description d.description] ++ (d.enabled.map Change.enabled).toList
    ++ (if d.material.isSymmetric then [.rotation d.enableRotation] else [])

def shows : Change → Attributes → Bool
  | .description v, a => v == a.description
  | .enabled v, a => v == a.enabled
  | .rotation v, a => v == a.rotationEnabled

theorem nodup_slots (d : Desired) : ((wants d).map Change.slot).Nodup := by
  have rotation : ((if d.material.isSymmetric then [Change.rotation d.enableRotation] else []).map
      Change.slot).Sublist [2] := by
    split
    · exact .refl _
    · exact List.nil_sublist _
  have enabled : ((d.enabled.map Change.enabled).toList.map Change.slot).Sublist [1] := by
    apply Rules.slots_sublist
    intro
    rfl
  have sublist : ((wants d).map Change.slot).Sublist ([0] ++ [1] ++ [2]) := by
    rw [wants, List.map_append, List.map_append]
    exact (List.Sublist.append (.refl _) enabled).append rotation
  exact sublist.nodup (by decide)

theorem diff_eq (d : Desired) (a : Attributes) :
    diff d a = (wants d).filter fun c => !shows c a := by
  simp only [wants, List.filter_append, Rules.filter_changes, Rules.filter_change]
  by_cases description : d.description = a.description <;>
    by_cases symmetric : d.material.isSymmetric <;>
    simp [diff, shows, description, symmetric, bne, Rules.filter_change]

def changeLaws : rules.ChangeLaws where
  slot := Change.slot
  wants := wants
  shows := shows
  diff_eq := diff_eq
  nodup_slots := nodup_slots
  shows_apply c a := by cases c <;> simp [rules, apply, shows]
  shows_apply_of_ne c c' a apart := by
    cases c <;> cases c' <;> first | rfl | exact absurd rfl apart
  apply_comm c c' a apart := by
    cases c <;> cases c' <;> first | rfl | exact absurd rfl apart

structure Untouched (cs : List Change) (a b : Attributes) : Prop where
  arn : b.arn = a.arn
  description : (∀ v, .description v ∉ cs) → b.description = a.description
  material : b.material = a.material
  enabled : (∀ v, .enabled v ∉ cs) → b.enabled = a.enabled
  rotationEnabled : (∀ v, .rotation v ∉ cs) → b.rotationEnabled = a.rotationEnabled

theorem Untouched.cons {c : Change} {cs : List Change} {a b : Attributes}
    (rest : Untouched cs (apply c a) b) : Untouched (c :: cs) a b := by
  obtain ⟨arn, description, material, enabled, rotation⟩ := rest
  cases c <;> constructor <;> grind [apply]

theorem frameLaws : rules.FrameLaws Untouched where
  nil a := by constructor <;> intros <;> rfl
  cons := Untouched.cons

/-! ## Completion and the clock -/

structure Filled (d d' : Desired) : Prop where
  description : d'.description = d.description
  usage : d'.usage = d.usage
  material : d'.material = d.material
  enabled : Rules.KeptIfSet d.enabled d'.enabled
  enableRotation : d'.enableRotation = d.enableRotation
  pendingWindowInDays : Rules.KeptIfSet d.pendingWindowInDays d'.pendingWindowInDays

theorem filled_fill (d : Desired) : Filled d (fill d) where
  description := rfl
  usage := rfl
  material := rfl
  enabled := .getD _ _
  enableRotation := rfl
  pendingWindowInDays := .getD _ _

/-- A name without blanks around it that begins as it has to, or that holds nothing. -/
def Normal (name : String) : Prop :=
  Text.Trimmed name.toList ∧ (name = "" ∨ Text.startsWith aliasStem name = true)

theorem normalizeName_of_normal {name : String} (normal : Normal name) :
    normalizeName name = name := by
  obtain ⟨trimmed, led⟩ := normal
  rw [normalizeName, Text.trim_of_trimmed trimmed]
  rcases led with rfl | led
  · rfl
  · simp [led]

theorem normal_normalizeName (name : String) : Normal (normalizeName name) := by
  have trimmed := Text.trimmed_trim name
  simp only [normalizeName]
  split
  next lacking =>
    have filled : (Text.trim name).toList ≠ [] := by
      intro empty
      rw [String.toList_eq_nil_iff] at empty
      simp [empty] at lacking
    have stem : Text.Trimmed aliasStem.toList := Text.trimmed_iff.mpr (by decide)
    constructor
    · simpa using stem.append [] trimmed (by decide) filled
    · right
      simp [Text.startsWith]
  next complete =>
    refine ⟨trimmed, ?_⟩
    simpa [or_iff_not_imp_left] using complete

theorem normalizeName_normalizeName (name : String) :
    rules.normalizeName (rules.normalizeName name) = rules.normalizeName name := by
  simp only [rules]
  exact normalizeName_of_normal (normal_normalizeName name)

/-- Only symmetric keys rotate. -/
theorem isSymmetric_of_validate {name : String} {d : Desired} (valid : validate name d = .ok ())
    (rotates : d.enableRotation = true) : d.material.isSymmetric = true := by
  by_contra asymmetric
  cases named : Check.needed "alias" name <;>
    cases within : Check.withinIfSet "pending_window_in_days" 7 30 d.pendingWindowInDays <;>
    simp_all [validate, Check.refuseIf, Check.refuse, bind, Except.bind]

theorem diff_materialize (identifier name : String) (d : Desired)
    (valid : validate name (fill d) = .ok ()) :
    diff (fill d) (materialize identifier (fill d)) = postCreate (fill d) := by
  -- Only a key that rotates differs from a new one, and validation has seen that it may.
  cases rotates : d.enableRotation with
  | false => simp [diff, fill, materialize, postCreate, Option.filter, rotates]
  | true =>
    have symmetric : (fill d).material.isSymmetric = true := isSymmetric_of_validate valid rotates
    rw [show (fill d).material = d.material from rfl] at symmetric
    simp [diff, fill, materialize, postCreate, Option.filter, rotates, symmetric]

theorem completionLaws : rules.CompletionLaws where
  fill_fill d := by simp [rules, fill]
  normalizeName_normalizeName := normalizeName_normalizeName
  diff_materialize _ := diff_materialize

theorem clockLaws : rules.ClockLaws id id := .idle fun _ _ _ _ _ => rfl

end DesiredState.CryptoKey
