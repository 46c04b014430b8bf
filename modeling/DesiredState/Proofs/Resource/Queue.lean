import DesiredState.Proofs.Resource.Laws
import DesiredState.Proofs.Text.Trim
import DesiredState.Resource.Queue

/-!
# Queues keep the laws

The slots of a queue's changes, what its specification wants, and the laws of `Rules` for it.
-/

namespace DesiredState.Queue

def Change.slot : Change → Nat
  | .delaySeconds _ => 0
  | .maximumMessageSize _ => 1
  | .messageRetentionPeriod _ => 2
  | .visibilityTimeout _ => 3
  | .receiveWaitTimeSeconds _ => 4
  | .redrivePolicy _ => 5

def wants (d : Desired) : List Change :=
  (d.delaySeconds.map Change.delaySeconds).toList
    ++ (d.maximumMessageSize.map Change.maximumMessageSize).toList
    ++ (d.messageRetentionPeriod.map Change.messageRetentionPeriod).toList
    ++ (d.visibilityTimeout.map Change.visibilityTimeout).toList
    ++ (d.receiveWaitTimeSeconds.map Change.receiveWaitTimeSeconds).toList
    ++ [.redrivePolicy d.deadLetter]

def shows : Change → Attributes → Bool
  | .delaySeconds v, a => v == a.delaySeconds
  | .maximumMessageSize v, a => v == a.maximumMessageSize
  | .messageRetentionPeriod v, a => v == a.messageRetentionPeriod
  | .visibilityTimeout v, a => v == a.visibilityTimeout
  | .receiveWaitTimeSeconds v, a => v == a.receiveWaitTimeSeconds
  | .redrivePolicy v, a => v == a.deadLetter

theorem nodup_slots (d : Desired) : ((wants d).map Change.slot).Nodup := by
  have sublist : ((wants d).map Change.slot).Sublist ([0] ++ [1] ++ [2] ++ [3] ++ [4] ++ [5]) := by
    simp only [wants, List.map_append]
    repeat' apply List.Sublist.append
    all_goals first | exact .refl _ | (apply Rules.slots_sublist; intro; rfl)
  exact sublist.nodup (by decide)

theorem diff_eq (d : Desired) (a : Attributes) :
    diff d a = (wants d).filter fun c => !shows c a := by
  simp only [wants, List.filter_append, Rules.filter_changes, Rules.filter_change]
  by_cases same : d.deadLetter = a.deadLetter <;> simp [diff, shows, same, bne]

def changeLaws : rules.ChangeLaws where
  slot := Change.slot
  wants := wants
  shows := shows
  diff_eq := diff_eq
  nodup_slots := nodup_slots
  shows_apply c a := by cases c <;> simp [rules, apply, shows]
  shows_apply_of_ne c c' a apart := by
    cases c <;> cases c' <;> first | rfl | exact absurd rfl apart
  apply_comm c c' a apart := by
    cases c <;> cases c' <;> first | rfl | exact absurd rfl apart

structure Untouched (cs : List Change) (a b : Attributes) : Prop where
  arn : b.arn = a.arn
  fifo : b.fifo = a.fifo
  delaySeconds : (∀ v, .delaySeconds v ∉ cs) → b.delaySeconds = a.delaySeconds
  maximumMessageSize : (∀ v, .maximumMessageSize v ∉ cs) →
    b.maximumMessageSize = a.maximumMessageSize
  messageRetentionPeriod : (∀ v, .messageRetentionPeriod v ∉ cs) →
    b.messageRetentionPeriod = a.messageRetentionPeriod
  visibilityTimeout : (∀ v, .visibilityTimeout v ∉ cs) → b.visibilityTimeout = a.visibilityTimeout
  receiveWaitTimeSeconds : (∀ v, .receiveWaitTimeSeconds v ∉ cs) →
    b.receiveWaitTimeSeconds = a.receiveWaitTimeSeconds
  deadLetter : (∀ v, .redrivePolicy v ∉ cs) → b.deadLetter = a.deadLetter
  createdAt : b.createdAt = a.createdAt

theorem Untouched.cons {c : Change} {cs : List Change} {a b : Attributes}
    (rest : Untouched cs (apply c a) b) : Untouched (c :: cs) a b := by
  obtain ⟨arn, fifo, delay, size, retention, visibility, wait, deadLetter, created⟩ := rest
  cases c <;> constructor <;> grind [apply]

theorem frameLaws : rules.FrameLaws Untouched where
  nil a := by constructor <;> intros <;> rfl
  cons := Untouched.cons

/-! ## Completion and the clock -/

structure Filled (d d' : Desired) : Prop where
  fifo : d'.fifo = d.fifo
  delaySeconds : Rules.KeptIfSet d.delaySeconds d'.delaySeconds
  maximumMessageSize : Rules.KeptIfSet d.maximumMessageSize d'.maximumMessageSize
  messageRetentionPeriod : Rules.KeptIfSet d.messageRetentionPeriod d'.messageRetentionPeriod
  visibilityTimeout : Rules.KeptIfSet d.visibilityTimeout d'.visibilityTimeout
  receiveWaitTimeSeconds : Rules.KeptIfSet d.receiveWaitTimeSeconds d'.receiveWaitTimeSeconds
  deadLetter : d'.deadLetter = d.deadLetter

theorem filled_fill (d : Desired) : Filled d (fill d) where
  fifo := rfl
  delaySeconds := .getD _ _
  maximumMessageSize := .getD _ _
  messageRetentionPeriod := .getD _ _
  visibilityTimeout := .getD _ _
  receiveWaitTimeSeconds := .getD _ _
  deadLetter := rfl

theorem completionLaws : rules.CompletionLaws where
  fill_fill d := by simp [rules, fill]
  normalizeName_normalizeName := Text.trim_trim
  diff_materialize now identifier name d _ := by simp [rules, diff, fill, materialize, Option.filter]

def Attributes.timeless (a : Attributes) : Attributes := { a with createdAt := none }

def Observed.timeless (o : Observed) : Observed := { o with createdAt := none }

theorem clockLaws : rules.ClockLaws Attributes.timeless Observed.timeless where
  diff_timeless _ _ := rfl
  apply_timeless c a := by cases c <;> rfl
  observe_timeless _ _ := rfl
  materialize_timeless _ _ _ _ _ := rfl

end DesiredState.Queue
