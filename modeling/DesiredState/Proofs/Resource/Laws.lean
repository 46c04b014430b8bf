import DesiredState.Resource.Rules
import Mathlib.Data.List.Nodup
import Mathlib.Data.List.Perm.Basic

/-!
# Laws of rules

What the rules of every kind have in common.  Each change of a kind sets one slot of the attributes;
a specification wants at most one change for each slot, and its difference to some attributes is
what it wants and they do not show yet.  From this alone follows that changes can be made in any
order, in part or all at once.

Contents:

* `Rules.applyAll` — the attributes after several changes.
* `Rules.ChangeLaws` — slots, wanted changes and what the attributes show of them.
* `diff_applyAll`, `applyAll_diff_applyAll` — what a part of the difference leaves to be done.
* `Rules.FrameLaws` — what changes leave as it was.
* `Rules.KeptIfSet` — what completing leaves of a setting.
* `Rules.CompletionLaws`, `Rules.ClockLaws` — completing twice, and the part that the clock plays.
-/

namespace DesiredState

variable {D A O C α : Type}

namespace Rules

def applyAll (r : Rules D A O C) (cs : List C) (a : A) : A :=
  cs.foldl (fun a c => r.apply c a) a

@[simp] theorem applyAll_cons (r : Rules D A O C) (c : C) (cs : List C) (a : A) :
    r.applyAll (c :: cs) a = r.applyAll cs (r.apply c a) := rfl

theorem applyAll_append (r : Rules D A O C) (cs more : List C) (a : A) :
    r.applyAll (cs ++ more) a = r.applyAll more (r.applyAll cs a) :=
  List.foldl_append ..

/-- The changes for an optional value, as far as they satisfy a condition. -/
theorem filter_changes (change : α → C) (p : C → Bool) (value : Option α) :
    (value.map change).toList.filter p =
      ((value.filter fun v => p (change v)).map change).toList := by
  cases value with
  | none => rfl
  | some v => by_cases holds : p (change v) <;> simp [Option.filter, holds]

theorem filter_change (p : C → Bool) (c : C) : [c].filter p = if p c then [c] else [] := by
  simp [List.filter_cons]

theorem slots_sublist {slot : C → Nat} {change : α → C} {n : Nat} (same : ∀ v, slot (change v) = n)
    (value : Option α) : ((value.map change).toList.map slot).Sublist [n] := by
  cases value <;> simp [same]

/-- Every change belongs to one slot of the attributes, and no slot is touched by the changes of
another one. -/
structure ChangeLaws (r : Rules D A O C) where
  slot : C → Nat
  /-- All changes that a specification can ask for. -/
  wants : D → List C
  /-- The attributes show a change already. -/
  shows : C → A → Bool
  diff_eq : ∀ d a, r.diff d a = (wants d).filter fun c => !shows c a
  nodup_slots : ∀ d, ((wants d).map slot).Nodup
  shows_apply : ∀ c a, shows c (r.apply c a) = true
  shows_apply_of_ne : ∀ c c' a, slot c ≠ slot c' → shows c' (r.apply c a) = shows c' a
  apply_comm : ∀ c c' a, slot c ≠ slot c' → r.apply c (r.apply c' a) = r.apply c' (r.apply c a)

namespace ChangeLaws

variable {r : Rules D A O C} (laws : r.ChangeLaws)
include laws

/-- Changes of different slots can be made in any order. -/
theorem applyAll_perm {cs cs' : List C} (perm : cs.Perm cs') (distinct : (cs.map laws.slot).Nodup)
    (a : A) : r.applyAll cs a = r.applyAll cs' a := by
  induction perm generalizing a with
  | nil => rfl
  | cons c _ inductionHypothesis =>
    rw [applyAll_cons, applyAll_cons]
    exact inductionHypothesis (List.nodup_cons.mp distinct).2 _
  | swap c c' cs =>
    -- Two changes of one slot would stand against `distinct`.
    have apart : laws.slot c ≠ laws.slot c' := by
      intro same
      simp [same] at distinct
    rw [applyAll_cons, applyAll_cons, applyAll_cons, applyAll_cons, laws.apply_comm c c' a apart]
  | trans first _ left right =>
    rw [left distinct, right ((first.map laws.slot).nodup_iff.mp distinct)]

theorem shows_applyAll_of_apart {c : C} {cs : List C} (a : A)
    (apart : laws.slot c ∉ cs.map laws.slot) : laws.shows c (r.applyAll cs a) = laws.shows c a := by
  induction cs generalizing a with
  | nil => rfl
  | cons c' cs inductionHypothesis =>
    simp only [List.map_cons, List.mem_cons, not_or] at apart
    rw [applyAll_cons, inductionHypothesis _ apart.2, laws.shows_apply_of_ne c' c a (Ne.symm apart.1)]

theorem shows_applyAll_of_mem {c : C} {cs : List C} (a : A) (distinct : (cs.map laws.slot).Nodup)
    (member : c ∈ cs) : laws.shows c (r.applyAll cs a) = true := by
  induction cs generalizing a with
  | nil => cases member
  | cons c' cs inductionHypothesis =>
    obtain ⟨apart, distinct⟩ := List.nodup_cons.mp distinct
    rw [applyAll_cons]
    rcases List.mem_cons.mp member with rfl | member
    · rw [laws.shows_applyAll_of_apart _ apart, laws.shows_apply]
    · exact inductionHypothesis _ distinct member

/-! ## What a specification wants -/

theorem mem_wants {d : D} {a : A} {c : C} (member : c ∈ r.diff d a) : c ∈ laws.wants d := by
  rw [laws.diff_eq] at member
  exact (List.mem_filter.mp member).1

theorem diff_sublist_wants (d : D) (a : A) : (r.diff d a).Sublist (laws.wants d) := by
  rw [laws.diff_eq]
  exact List.filter_sublist

theorem nodup_slots_diff (d : D) (a : A) : ((r.diff d a).map laws.slot).Nodup :=
  ((laws.diff_sublist_wants d a).map laws.slot).nodup (laws.nodup_slots d)

theorem nodup_diff (d : D) (a : A) : (r.diff d a).Nodup :=
  .of_map laws.slot (laws.nodup_slots_diff d a)

theorem eq_of_slot_eq {d : D} {c c' : C} (wanted : c ∈ laws.wants d) (wanted' : c' ∈ laws.wants d)
    (same : laws.slot c = laws.slot c') : c = c' :=
  List.inj_on_of_nodup_map (laws.nodup_slots d) wanted wanted' same

theorem nodup_slots_of_subset {d : D} {a : A} {part : List C} (distinct : part.Nodup)
    (within : part ⊆ r.diff d a) : (part.map laws.slot).Nodup :=
  distinct.map_on fun _ member _ member' =>
    laws.eq_of_slot_eq (laws.mem_wants (within member)) (laws.mem_wants (within member'))

/-- A part of the difference, once made, leaves exactly the rest of it, in the same order. -/
theorem diff_applyAll [DecidableEq C] {d : D} {a : A} {part : List C} (distinct : part.Nodup)
    (within : part ⊆ r.diff d a) :
    r.diff d (r.applyAll part a) = (r.diff d a).filter fun c => c ∉ part := by
  rw [laws.diff_eq, laws.diff_eq, List.filter_filter]
  apply List.filter_congr
  intro c wanted
  have slots := laws.nodup_slots_of_subset distinct within
  -- What was made shows; what was not made shows exactly if it did before.
  by_cases made : c ∈ part
  · simp [made, laws.shows_applyAll_of_mem a slots made]
  · have apart : laws.slot c ∉ part.map laws.slot := by
      intro member
      obtain ⟨c', made', same⟩ := List.mem_map.mp member
      exact made (laws.eq_of_slot_eq (laws.mem_wants (within made')) wanted same ▸ made')
    simp [made, laws.shows_applyAll_of_apart a apart]

/-- Once all of the difference is made, none is left. -/
theorem diff_applyAll_diff (d : D) (a : A) : r.diff d (r.applyAll (r.diff d a) a) = [] := by
  classical
  rw [laws.diff_applyAll (laws.nodup_diff d a) (List.Subset.refl _)]
  simp

/-- Making a part of the difference and then what is left comes to making all of it. -/
theorem applyAll_diff_applyAll {d : D} {a : A} {part : List C}
    (sublist : part.Sublist (r.diff d a)) :
    r.applyAll (r.diff d (r.applyAll part a)) (r.applyAll part a) =
      r.applyAll (r.diff d a) a := by
  classical
  have distinct : part.Nodup := sublist.nodup (laws.nodup_diff d a)
  -- The part and what is left of the difference are the difference in another order.
  have made : part.Perm ((r.diff d a).filter fun c => c ∈ part) := by
    rw [List.perm_ext_iff_of_nodup distinct ((laws.nodup_diff d a).filter _)]
    intro c
    simp only [List.mem_filter, decide_eq_true_eq]
    exact ⟨fun member => ⟨sublist.subset member, member⟩, And.right⟩
  have whole : (part ++ (r.diff d a).filter fun c => c ∉ part).Perm (r.diff d a) := by
    have split := List.filter_append_perm (fun c => decide (c ∈ part)) (r.diff d a)
    simp only [← decide_not] at split
    exact (made.append_right _).trans split
  rw [laws.diff_applyAll distinct sublist.subset, ← applyAll_append]
  exact laws.applyAll_perm whole ((whole.map laws.slot).nodup_iff.mpr (laws.nodup_slots_diff d a)) a

end ChangeLaws

/-- What it takes for attributes to be untouched by changes that do not name them. -/
structure FrameLaws (r : Rules D A O C) (Untouched : List C → A → A → Prop) : Prop where
  nil : ∀ a, Untouched [] a a
  cons : ∀ {c cs a b}, Untouched cs (r.apply c a) b → Untouched (c :: cs) a b

theorem FrameLaws.applyAll {r : Rules D A O C} {Untouched : List C → A → A → Prop}
    (laws : r.FrameLaws Untouched) (cs : List C) (a : A) : Untouched cs a (r.applyAll cs a) := by
  induction cs generalizing a with
  | nil => exact laws.nil a
  | cons c cs inductionHypothesis => exact laws.cons (inductionHypothesis _)

/-- A value that was set stays; one that was left open may have been filled in. -/
def KeptIfSet (before after : Option α) : Prop := ∀ v, before = some v → after = some v

theorem KeptIfSet.getD (value : Option α) (default : α) :
    KeptIfSet value (some (value.getD default)) := by
  rintro v rfl
  rfl

/-- Completing twice comes to completing once, and what follows creation is what a new resource
still lacks. -/
structure CompletionLaws (r : Rules D A O C) : Prop where
  fill_fill : ∀ d, r.fill (r.fill d) = r.fill d
  normalizeName_normalizeName : ∀ name, r.normalizeName (r.normalizeName name) = r.normalizeName name
  diff_materialize : ∀ now identifier name d, r.validate name (r.fill d) = .ok () →
    r.diff (r.fill d) (r.materialize now identifier name (r.fill d)) = r.postCreate (r.fill d)

/-- The clock decides nothing: attributes that agree without what was taken from the clock are
dealt with alike. -/
structure ClockLaws (r : Rules D A O C) (timeless : A → A) (timelessObserved : O → O) : Prop where
  diff_timeless : ∀ d a, r.diff d (timeless a) = r.diff d a
  apply_timeless : ∀ c a, timeless (r.apply c a) = r.apply c (timeless a)
  observe_timeless : ∀ identifier a,
    timelessObserved (r.observe identifier a) = r.observe identifier (timeless a)
  materialize_timeless : ∀ now now' identifier name d,
    timeless (r.materialize now identifier name d) = timeless (r.materialize now' identifier name d)

theorem ClockLaws.applyAll_timeless {r : Rules D A O C} {timeless : A → A}
    {timelessObserved : O → O} (laws : r.ClockLaws timeless timelessObserved) (cs : List C) (a : A) :
    timeless (r.applyAll cs a) = r.applyAll cs (timeless a) := by
  induction cs generalizing a with
  | nil => rfl
  | cons c cs inductionHypothesis =>
    rw [applyAll_cons, applyAll_cons, inductionHypothesis, laws.apply_timeless]

/-- A kind whose new resources carry no time needs nothing taken away. -/
theorem ClockLaws.idle {r : Rules D A O C}
    (same : ∀ now now' identifier name d,
      r.materialize now identifier name d = r.materialize now' identifier name d) :
    r.ClockLaws id id where
  diff_timeless _ _ := rfl
  apply_timeless _ _ := rfl
  observe_timeless _ _ := rfl
  materialize_timeless := same

end Rules

end DesiredState
