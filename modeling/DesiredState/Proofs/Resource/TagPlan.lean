import DesiredState.Proofs.Dict
import DesiredState.Resource.TagPlan

/-!
# Tags after a plan

A plan moves the current tags to the ones that its strategy asks for: the current tags overwritten
by the desired ones, or the desired ones alone.  Nothing is left to be done then, also when the
writes of the plan are made and its removals are still to come.
-/

namespace DesiredState.TagPlan

/-- The tags that a strategy asks for. -/
def goal (strategy : TagStrategy) (desired current : Tags) : Tags :=
  match strategy with
  | .additive => current.overwrite desired
  | .additiveWithRemoval => desired

theorem get?_lacking (desired current : Tags) (key : String) :
    (lacking desired current).get? key =
      (desired.get? key).filter fun v => current.get? key != some v :=
  Dict.get?_filter desired _ key

theorem mem_stale {desired current : Tags} {key : String} :
    key ∈ stale desired current ↔ current.contains key = true ∧ desired.contains key = false := by
  simp [stale, Dict.mem_keys_iff]

theorem overwrite_lacking (desired current : Tags) :
    current.overwrite (lacking desired current) = current.overwrite desired := by
  apply Dict.ext_get?
  intro key
  rw [Dict.get?_overwrite, Dict.get?_overwrite, get?_lacking]
  cases wanted : desired.get? key with
  | none => rfl
  | some v =>
    by_cases present : current.get? key = some v
    · simp [Option.filter, present]
    · simp [Option.filter, present]

theorem eraseAll_stale (desired current : Tags) :
    (current.overwrite desired).eraseAll (stale desired current) = desired := by
  apply Dict.ext_get?
  intro key
  rw [Dict.get?_eraseAll, Dict.get?_overwrite]
  -- A desired key is not stale; any other one is stale if it is there at all.
  cases wanted : desired.get? key with
  | some v => simp [mem_stale, Dict.contains, wanted]
  | none =>
    cases present : current.get? key with
    | none => simp
    | some v => simp [mem_stale, Dict.contains, wanted, present]

theorem result_of (desired current : Tags) (strategy : TagStrategy) :
    (of desired current strategy).result current = goal strategy desired current := by
  cases strategy with
  | additive =>
    rw [result, of, Dict.eraseAll_nil, overwrite_lacking]
    rfl
  | additiveWithRemoval =>
    rw [result, of, overwrite_lacking]
    exact eraseAll_stale desired current

theorem of_goal (desired current : Tags) (strategy : TagStrategy) :
    of desired (goal strategy desired current) strategy = empty := by
  -- Under both strategies every desired tag is there, so nothing is lacking.
  have complete : lacking desired (goal strategy desired current) = .empty := by
    apply Dict.ext_get?
    intro key
    rw [get?_lacking, Dict.get?_empty]
    cases wanted : desired.get? key with
    | none => rfl
    | some v => cases strategy <;> simp [goal, Dict.get?_overwrite, wanted, Option.filter]
  cases strategy with
  | additive => rw [of, complete, empty]
  | additiveWithRemoval =>
    have clean : stale desired desired = [] := by
      rw [List.eq_nil_iff_forall_not_mem]
      intro key member
      rw [mem_stale] at member
      simp_all
    rw [of, complete, empty]
    simp only [goal, clean]

/-- The writes of a plan do not move its goal. -/
theorem goal_overwrite_lacking (desired current : Tags) (strategy : TagStrategy) :
    goal strategy desired (current.overwrite (lacking desired current)) =
      goal strategy desired current := by
  cases strategy with
  | additive =>
    rw [goal, goal, overwrite_lacking]
    apply Dict.ext_get?
    intro key
    rw [Dict.get?_overwrite, Dict.get?_overwrite]
    cases desired.get? key <;> rfl
  | additiveWithRemoval => rfl

end DesiredState.TagPlan
