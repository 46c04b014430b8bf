import DesiredState.Proofs.Resource.Laws
import DesiredState.Proofs.Text.Trim
import DesiredState.Resource.Table

/-!
# Tables keep the laws

The slots of a table's changes, what its specification wants, and the laws of `Rules` for it.  Mode
and capacity share a slot; a new table never has continuous backups, so they are what follows its
creation.
-/

namespace DesiredState.Table

def Change.slot : Change → Nat
  | .billing _ _ => 0
  | .pointInTimeRecovery _ => 1

def wants (d : Desired) : List Change :=
  [.billing d.billing d.throughput, .pointInTimeRecovery d.pointInTimeRecovery]

def shows : Change → Attributes → Bool
  | .billing mode throughput, a => mode = a.billingMode && throughput = a.throughput
  | .pointInTimeRecovery v, a => v == a.pointInTimeRecovery

theorem diff_eq (d : Desired) (a : Attributes) :
    diff d a = (wants d).filter fun c => !shows c a := by
  by_cases mode : d.billing = a.billingMode <;>
    by_cases throughput : d.throughput = a.throughput <;>
    by_cases recovery : d.pointInTimeRecovery = a.pointInTimeRecovery <;>
    simp [diff, wants, shows, mode, throughput, recovery]

def changeLaws : rules.ChangeLaws where
  slot := Change.slot
  wants := wants
  shows := shows
  diff_eq := diff_eq
  nodup_slots d := by simp [wants, Change.slot]
  shows_apply c a := by cases c <;> simp [rules, apply, shows]
  shows_apply_of_ne c c' a apart := by
    cases c <;> cases c' <;> first | rfl | exact absurd rfl apart
  apply_comm c c' a apart := by
    cases c <;> cases c' <;> first | rfl | exact absurd rfl apart

structure Untouched (cs : List Change) (a b : Attributes) : Prop where
  billingMode : (∀ mode throughput, .billing mode throughput ∉ cs) → b.billingMode = a.billingMode
  throughput : (∀ mode throughput, .billing mode throughput ∉ cs) → b.throughput = a.throughput
  pointInTimeRecovery : (∀ v, .pointInTimeRecovery v ∉ cs) →
    b.pointInTimeRecovery = a.pointInTimeRecovery
  status : b.status = a.status
  itemCount : b.itemCount = a.itemCount

theorem Untouched.cons {c : Change} {cs : List Change} {a b : Attributes}
    (rest : Untouched cs (apply c a) b) : Untouched (c :: cs) a b := by
  obtain ⟨mode, throughput, recovery, status, count⟩ := rest
  cases c <;> constructor <;> grind [apply]

theorem frameLaws : rules.FrameLaws Untouched where
  nil a := by constructor <;> intros <;> rfl
  cons := Untouched.cons

/-! ## Completion and the clock -/

structure Filled (d d' : Desired) : Prop where
  hashKey : d'.hashKey = d.hashKey
  rangeKey : d'.rangeKey = d.rangeKey
  billingMode : Rules.KeptIfSet d.billingMode d'.billingMode
  throughput : d'.throughput = d.throughput
  pointInTimeRecovery : d'.pointInTimeRecovery = d.pointInTimeRecovery
  streamEnabled : d'.streamEnabled = d.streamEnabled
  streamViewType : Rules.KeptIfSet d.streamViewType d'.streamViewType

theorem filled_fill (d : Desired) : Filled d (fill d) where
  hashKey := rfl
  rangeKey := rfl
  billingMode := .getD _ _
  throughput := rfl
  pointInTimeRecovery := rfl
  streamEnabled := rfl
  streamViewType := by
    -- A view is filled in only for a table that streams.
    rw [fill]
    split
    · exact .getD _ _
    · exact fun _ set => set

theorem fill_fill (d : Desired) : fill (fill d) = fill d := by
  cases streamed : d.streamEnabled <;> simp [fill, Desired.billing, streamed]

theorem diff_materialize (d : Desired) :
    diff (fill d) (materialize (fill d)) = postCreate (fill d) := by
  cases recovery : d.pointInTimeRecovery <;>
    simp [diff, materialize, postCreate, fill, Desired.billing, recovery]

theorem completionLaws : rules.CompletionLaws where
  fill_fill := fill_fill
  normalizeName_normalizeName := Text.trim_trim
  diff_materialize _ _ _ d _ := diff_materialize d

theorem clockLaws : rules.ClockLaws id id := .idle fun _ _ _ _ _ => rfl

end DesiredState.Table
