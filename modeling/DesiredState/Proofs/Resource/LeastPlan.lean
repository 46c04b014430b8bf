import DesiredState.Proofs.Host.Faults
import DesiredState.Proofs.Resource.TagPlan
import Mathlib.Data.List.Perm.Subperm
import Mathlib.Tactic.ByContra

/-!
# Least plans

A plan writes and removes exactly what stands between the current tags and its goal.  Whatever
reaches the goal has to do as much, so no part of a plan can be spared; and since nothing is both
written and removed, it does not matter which of the two comes first.

Contents:

* `TagPlan.resultRemovedFirst` — the tags after a plan whose removals come first.
* `TagPlan.Part`, `TagPlan.Covers` — less than a plan, and no less than it.
* `TagPlan.Retags` — a plan carried out by a host.
* `TagPlan.Least`, `TagPlan.of_least` — the promises of a plan, and that every plan keeps them.
-/

namespace DesiredState

namespace TagPlan

variable {desired current : Tags} {strategy : TagStrategy} {p q : TagPlan} {key value : String}

/-- The tags after a plan whose removals come first. -/
def resultRemovedFirst (p : TagPlan) (current : Tags) : Tags :=
  (current.eraseAll p.remove).overwrite p.upsert

/-! ## Look-ups -/

theorem get?_result (p : TagPlan) (current : Tags) (key : String) :
    (p.result current).get? key =
      if key ∈ p.remove then none else (p.upsert.get? key).or (current.get? key) := by
  rw [result, Dict.get?_eraseAll, Dict.get?_overwrite]

theorem get?_resultRemovedFirst (p : TagPlan) (current : Tags) (key : String) :
    (p.resultRemovedFirst current).get? key =
      (p.upsert.get? key).or (if key ∈ p.remove then none else current.get? key) := by
  rw [resultRemovedFirst, Dict.get?_overwrite, Dict.get?_eraseAll]

theorem get?_goal_of_desired (wanted : desired.get? key = some value) :
    (goal strategy desired current).get? key = some value := by
  cases strategy with
  | additive => rw [goal, Dict.get?_overwrite, wanted, Option.some_or]
  | additiveWithRemoval => rw [goal, wanted]

/-! ## What a plan writes and removes -/

theorem get?_lacking_eq_some_iff :
    (lacking desired current).get? key = some value ↔
      desired.get? key = some value ∧ current.get? key ≠ some value := by
  rw [get?_lacking, Option.filter_eq_some_iff, bne_iff_ne]

/-- Only stale keys are removed, and only under the strategy that removes. -/
theorem mem_remove_of (member : key ∈ (of desired current strategy).remove) :
    current.contains key = true ∧ desired.contains key = false ∧
      strategy = .additiveWithRemoval := by
  cases strategy with
  | additive => cases member
  | additiveWithRemoval =>
    obtain ⟨present, undesired⟩ := mem_stale.mp member
    exact ⟨present, undesired, rfl⟩

theorem sorted_remove_of : (of desired current strategy).remove.Pairwise (· < ·) := by
  cases strategy with
  | additive => exact .nil
  | additiveWithRemoval => exact current.sorted_keys.filter _

theorem disjoint_of (member : key ∈ (of desired current strategy).remove) :
    (of desired current strategy).upsert.get? key = none := by
  obtain ⟨-, undesired, -⟩ := mem_remove_of member
  show (lacking desired current).get? key = none
  rw [get?_lacking, Dict.contains_eq_false_iff.mp undesired]
  rfl

theorem resultRemovedFirst_eq (disjoint : ∀ key ∈ p.remove, p.upsert.get? key = none)
    (current : Tags) : p.resultRemovedFirst current = p.result current := by
  apply Dict.ext_get?
  intro key
  rw [get?_resultRemovedFirst, get?_result]
  by_cases removed : key ∈ p.remove
  · rw [if_pos removed, if_pos removed, disjoint key removed, Option.none_or]
  · rw [if_neg removed, if_neg removed]

/-! ## Less and more -/

/-- The first plan does nothing that the second one does not do. -/
structure Part (p q : TagPlan) : Prop where
  upsert : ∀ key value, p.upsert.get? key = some value → q.upsert.get? key = some value
  remove : p.remove.Sublist q.remove

/-- The first plan does all that the second one does. -/
structure Covers (p q : TagPlan) : Prop where
  upsert : ∀ key value, q.upsert.get? key = some value → p.upsert.get? key = some value
  remove : ∀ key ∈ q.remove, key ∈ p.remove

/-- In either order, a plan leads to these tags. -/
def Reaches (p : TagPlan) (current last : Tags) : Prop :=
  p.result current = last ∨ p.resultRemovedFirst current = last

theorem Reaches.of_get? {last : Tags} (reaches : p.Reaches current last) (key : String) :
    last.get? key = (if key ∈ p.remove then none else (p.upsert.get? key).or (current.get? key)) ∨
      last.get? key = (p.upsert.get? key).or (if key ∈ p.remove then none else current.get? key) := by
  rcases reaches with rfl | rfl
  · exact .inl (get?_result ..)
  · exact .inr (get?_resultRemovedFirst ..)

/-- What is found afterwards, and was not found before, was written. -/
theorem Reaches.get?_upsert {last : Tags} (reaches : p.Reaches current last)
    (found : last.get? key = some value) (lacked : current.get? key ≠ some value) :
    p.upsert.get? key = some value := by
  have shown := reaches.of_get? key
  rw [found] at shown
  -- If it was not written, one of the current tags was found.
  cases written : p.upsert.get? key <;> by_cases removed : key ∈ p.remove <;> simp_all

/-- What is missing afterwards, and was there before, was removed. -/
theorem Reaches.mem_remove {last : Tags} (reaches : p.Reaches current last)
    (missing : last.get? key = none) (present : current.contains key = true) : key ∈ p.remove := by
  by_contra kept
  obtain ⟨value, there⟩ := Dict.contains_iff.mp present
  have shown := reaches.of_get? key
  simp only [missing, there, if_neg kept, or_self] at shown
  cases written : p.upsert.get? key <;> simp [written] at shown

/-- Whatever reaches the goal writes and removes at least as much as the plan. -/
theorem covers_of_reaches (reaches : q.Reaches current (goal strategy desired current)) :
    q.Covers (of desired current strategy) where
  upsert key value written := by
    obtain ⟨wanted, lacked⟩ := get?_lacking_eq_some_iff.mp written
    exact reaches.get?_upsert (get?_goal_of_desired wanted) lacked
  remove key member := by
    obtain ⟨present, undesired, rfl⟩ := mem_remove_of member
    exact reaches.mem_remove (Dict.contains_eq_false_iff.mp undesired) present

theorem Part.eq_of_covers (part : q.Part p) (covers : q.Covers p)
    (sorted : p.remove.Pairwise (· < ·)) : q = p := by
  obtain ⟨upsert, remove⟩ := q
  have same : upsert = p.upsert := by
    apply Dict.ext_get?
    intro key
    apply Option.ext
    intro value
    exact ⟨part.upsert key value, covers.upsert key value⟩
  -- Both lists of keys are in ascending order and hold the same keys.
  have distinct : p.remove.Nodup := sorted.imp fun below => String.ne_of_lt below
  have whole : p.remove.Subperm remove := distinct.subperm fun key => covers.remove key
  have keys : remove = p.remove := part.remove.eq_of_length_le whole.length_le
  rw [same, keys]

end TagPlan

/-! ## Plans and hosts -/

namespace Simulator

variable {k : Kind} {w : Simulator k} {identifier : String} {h : HostedOf k}

/-- The host after a call that put a resource in the place of another one. -/
def replaced (w : Simulator k) (c : Call k) (identifier : String) (h : HostedOf k) : Simulator k :=
  { w.noted c with hosted := w.hosted.insert identifier h }

theorem get?_replaced (w : Simulator k) (c : Call k) (identifier : String) (h : HostedOf k) :
    (w.replaced c identifier h).hosted.get? identifier = some h :=
  Dict.get?_insert_self ..

theorem replaced_replaced (w : Simulator k) (c c' : Call k) (identifier : String)
    (h h' : HostedOf k) : ((w.replaced c identifier h).replaced c' identifier h').hosted =
      w.hosted.insert identifier h' :=
  Dict.insert_insert ..

theorem enter_modifyHosted {c : Call k} (f : HostedOf k → HostedOf k)
    (hosted : w.hosted.get? identifier = some h) (quiet : w.faults c.operation = none) :
    enter c (modifyHosted identifier fun h => .ok (f h)) w =
      (.ok (), w.replaced c identifier (f h)) := by
  have found : (w.noted c).hosted.get? identifier = some h := hosted
  simp only [enter_of_quiet quiet, modifyHosted, found]
  rfl

theorem tag_eq (clock : Instant) (hosted : w.hosted.get? identifier = some h)
    (quiet : w.faults .tag = none) (tags : Tags) :
    (gateway k clock).tag identifier tags w = (.ok (), w.replaced (.tag identifier tags) identifier
      { h with tags := h.tags.overwrite tags }) :=
  enter_modifyHosted (c := .tag identifier tags) _ hosted quiet

theorem untag_eq (clock : Instant) (hosted : w.hosted.get? identifier = some h)
    (quiet : w.faults .untag = none) (keys : List String) :
    (gateway k clock).untag identifier keys w = (.ok (), w.replaced (.untag identifier keys)
      identifier { h with tags := h.tags.eraseAll keys }) :=
  enter_modifyHosted (c := .untag identifier keys) _ hosted quiet

end Simulator

namespace TagPlan

/-- A host that is asked to write and to remove, in either order, ends with these tags. -/
def Retags (p : TagPlan) (current last : Tags) : Prop :=
  ∀ {k : Kind} (clock : Instant) (w : Simulator k) (identifier : String) (h : HostedOf k),
    w.hosted.get? identifier = some h → h.tags = current →
    w.faults .tag = none → w.faults .untag = none →
      (∃ w₁ w₂, (Simulator.gateway k clock).tag identifier p.upsert w = (.ok (), w₁) ∧
        (Simulator.gateway k clock).untag identifier p.remove w₁ = (.ok (), w₂) ∧
        w₂.hosted = w.hosted.insert identifier { h with tags := last }) ∧
      (∃ w₁ w₂, (Simulator.gateway k clock).untag identifier p.remove w = (.ok (), w₁) ∧
        (Simulator.gateway k clock).tag identifier p.upsert w₁ = (.ok (), w₂) ∧
        w₂.hosted = w.hosted.insert identifier { h with tags := last })

theorem retags {p : TagPlan} {current last : Tags} (result : p.result current = last)
    (removedFirst : p.resultRemovedFirst current = last) : p.Retags current last := by
  rintro k clock w identifier h hosted rfl tag untag
  constructor
  · refine ⟨_, _, Simulator.tag_eq clock hosted tag p.upsert,
      Simulator.untag_eq clock (Simulator.get?_replaced ..) untag p.remove, ?_⟩
    rw [Simulator.replaced_replaced, ← result]
    rfl
  · refine ⟨_, _, Simulator.untag_eq clock hosted untag p.remove,
      Simulator.tag_eq clock (Simulator.get?_replaced ..) tag p.upsert, ?_⟩
    rw [Simulator.replaced_replaced, ← removedFirst]
    rfl

/-! ## The promises of a plan -/

/-- What is promised of a plan: it reaches its goal in either order and on every host, it does only
what is needed for that, and it is all that is needed. -/
structure Least (desired current : Tags) (strategy : TagStrategy) (p : TagPlan) : Prop where
  result : p.result current = goal strategy desired current
  removedFirst : p.resultRemovedFirst current = goal strategy desired current
  hosted : p.Retags current (goal strategy desired current)
  upserted : ∀ key value, p.upsert.get? key = some value →
    desired.get? key = some value ∧ current.get? key ≠ some value
  removed : ∀ key ∈ p.remove, current.contains key = true ∧ desired.contains key = false
  ascending : p.remove.Pairwise (· < ·)
  disjoint : ∀ key ∈ p.remove, p.upsert.contains key = false
  noProperPart : ∀ q : TagPlan, q.Part p → q.Reaches current (goal strategy desired current) → q = p
  least : ∀ q : TagPlan, q.Reaches current (goal strategy desired current) → q.Covers p
  settled : of desired (p.result current) strategy = empty
  isEmpty_iff : p.isEmpty = true ↔ current = goal strategy desired current

theorem isEmpty_iff_eq_empty {p : TagPlan} : p.isEmpty = true ↔ p = empty := by
  obtain ⟨upsert, remove⟩ := p
  simp [isEmpty, empty, Dict.isEmpty_iff]

/-- Every plan keeps all promises, under both strategies. -/
theorem of_least (desired current : Tags) (strategy : TagStrategy) :
    Least desired current strategy (of desired current strategy) := by
  have result := result_of desired current strategy
  have removedFirst : (of desired current strategy).resultRemovedFirst current =
      goal strategy desired current := by
    rw [resultRemovedFirst_eq (fun _ => disjoint_of), result]
  exact {
    result := result
    removedFirst := removedFirst
    hosted := retags result removedFirst
    upserted := fun _ _ => get?_lacking_eq_some_iff.mp
    removed := fun _ member => ⟨(mem_remove_of member).1, (mem_remove_of member).2.1⟩
    ascending := sorted_remove_of
    disjoint := fun _ member => Dict.contains_eq_false_iff.mpr (disjoint_of member)
    noProperPart := fun _ part reaches =>
      part.eq_of_covers (covers_of_reaches reaches) sorted_remove_of
    least := fun _ => covers_of_reaches
    settled := by rw [result, of_goal]
    isEmpty_iff := by
      rw [isEmpty_iff_eq_empty]
      constructor
      · intro idle
        rw [idle] at result
        exact result
      · intro there
        -- The plan for tags that are at the goal is the plan at the goal.
        have idle := of_goal desired current strategy
        rwa [← there] at idle }

end TagPlan

end DesiredState
