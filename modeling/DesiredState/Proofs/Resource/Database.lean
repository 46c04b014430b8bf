import DesiredState.Proofs.Resource.Laws
import DesiredState.Proofs.Text.Lowercase
import DesiredState.Resource.Database

/-!
# Databases keep the laws

The slots of a database's changes, what its specification wants, and the laws of `Rules` for it.
-/

namespace DesiredState.Database

def Change.slot : Change → Nat
  | .instanceClass _ => 0
  | .allocatedStorage _ => 1
  | .backupRetentionPeriod _ => 2
  | .multiAz _ => 3

def wants (d : Desired) : List Change :=
  [.instanceClass d.instanceClass] ++ [.allocatedStorage d.allocatedStorage]
    ++ (d.backupRetentionPeriod.map Change.backupRetentionPeriod).toList
    ++ [.multiAz d.multiAz]

def shows : Change → Attributes → Bool
  | .instanceClass v, a => v == a.instanceClass
  | .allocatedStorage v, a => v == a.allocatedStorage
  | .backupRetentionPeriod v, a => v == a.backupRetentionPeriod
  | .multiAz v, a => v == a.multiAz

theorem nodup_slots (d : Desired) : ((wants d).map Change.slot).Nodup := by
  have sublist : ((wants d).map Change.slot).Sublist ([0] ++ [1] ++ [2] ++ [3]) := by
    simp only [wants, List.map_append]
    repeat' apply List.Sublist.append
    all_goals first | exact .refl _ | (apply Rules.slots_sublist; intro; rfl)
  exact sublist.nodup (by decide)

theorem diff_eq (d : Desired) (a : Attributes) :
    diff d a = (wants d).filter fun c => !shows c a := by
  simp only [wants, List.filter_append, Rules.filter_changes, Rules.filter_change]
  by_cases size : d.instanceClass = a.instanceClass <;>
    by_cases storage : d.allocatedStorage = a.allocatedStorage <;>
    by_cases standby : d.multiAz = a.multiAz <;>
    simp [diff, shows, size, storage, standby, bne]

def changeLaws : rules.ChangeLaws where
  slot := Change.slot
  wants := wants
  shows := shows
  diff_eq := diff_eq
  nodup_slots := nodup_slots
  shows_apply c a := by cases c <;> simp [rules, apply, shows]
  shows_apply_of_ne c c' a apart := by
    cases c <;> cases c' <;> first | rfl | exact absurd rfl apart
  apply_comm c c' a apart := by
    cases c <;> cases c' <;> first | rfl | exact absurd rfl apart

structure Untouched (cs : List Change) (a b : Attributes) : Prop where
  engine : b.engine = a.engine
  instanceClass : (∀ v, .instanceClass v ∉ cs) → b.instanceClass = a.instanceClass
  allocatedStorage : (∀ v, .allocatedStorage v ∉ cs) → b.allocatedStorage = a.allocatedStorage
  backupRetentionPeriod : (∀ v, .backupRetentionPeriod v ∉ cs) →
    b.backupRetentionPeriod = a.backupRetentionPeriod
  multiAz : (∀ v, .multiAz v ∉ cs) → b.multiAz = a.multiAz
  status : b.status = a.status
  endpoint : b.endpoint = a.endpoint

theorem Untouched.cons {c : Change} {cs : List Change} {a b : Attributes}
    (rest : Untouched cs (apply c a) b) : Untouched (c :: cs) a b := by
  obtain ⟨engine, size, storage, retention, standby, status, endpoint⟩ := rest
  cases c <;> constructor <;> grind [apply]

theorem frameLaws : rules.FrameLaws Untouched where
  nil a := by constructor <;> intros <;> rfl
  cons := Untouched.cons

/-! ## Completion and the clock -/

structure Filled (d d' : Desired) : Prop where
  engine : d'.engine = d.engine
  engineVersion : d'.engineVersion = d.engineVersion
  instanceClass : d'.instanceClass = d.instanceClass
  allocatedStorage : d'.allocatedStorage = d.allocatedStorage
  masterUsername : d'.masterUsername = d.masterUsername
  masterPassword : d'.masterPassword = d.masterPassword
  port : Rules.KeptIfSet d.port d'.port
  backupRetentionPeriod : Rules.KeptIfSet d.backupRetentionPeriod d'.backupRetentionPeriod
  multiAz : d'.multiAz = d.multiAz

theorem filled_fill (d : Desired) : Filled d (fill d) where
  engine := rfl
  engineVersion := rfl
  instanceClass := rfl
  allocatedStorage := rfl
  masterUsername := rfl
  masterPassword := rfl
  port := .getD _ _
  backupRetentionPeriod := .getD _ _
  multiAz := rfl

theorem normalizeName_normalizeName (name : String) :
    rules.normalizeName (rules.normalizeName name) = rules.normalizeName name := by
  simp only [rules]
  rw [Text.trim_of_trimmed (Text.trimmed_lowercase (Text.trimmed_trim name)),
    Text.lowercase_lowercase]

theorem completionLaws : rules.CompletionLaws where
  fill_fill d := by simp [rules, fill, Desired.effectivePort]
  normalizeName_normalizeName := normalizeName_normalizeName
  diff_materialize now identifier name d _ := by simp [rules, diff, fill, materialize, Option.filter]

theorem clockLaws : rules.ClockLaws id id := .idle fun _ _ _ _ _ => rfl

end DesiredState.Database
