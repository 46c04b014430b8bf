import Mathlib.Order.Basic
import DesiredState.Host.Numbering

/-!
# Numbers that are given away

As identifiers are made, a numbering gives away one number after the other.  Nothing is known of these
numbers by themselves: whether one of them is given away twice depends on the sequence.

Contents:

* the order of numberings: one comes before those that it becomes.
* `Numbering.Gives` — the numbers that are given away between two numberings.
* `Numbering.Distinct` — none of these is given away twice.
-/

namespace DesiredState.Numbering

/-- A numbering comes before those that it becomes as it gives numbers away. -/
instance : LE Numbering := ⟨fun n n' => n'.number = n.number ∧ n.position ≤ n'.position⟩

variable {first middle last : Numbering} {n : Nat}

theorem le_iff : first ≤ last ↔ last.number = first.number ∧ first.position ≤ last.position := Iff.rfl

instance : Preorder Numbering where
  le_refl n := le_iff.mpr ⟨rfl, Nat.le_refl _⟩
  le_trans _ _ _ early late := by
    obtain ⟨same, low⟩ := le_iff.mp early
    obtain ⟨same', high⟩ := le_iff.mp late
    exact le_iff.mpr ⟨same'.trans same, Nat.le_trans low high⟩

theorem le_succ (n : Numbering) : n ≤ n.succ := le_iff.mpr ⟨rfl, Nat.le_succ _⟩

theorem succ_ne (n : Numbering) : n.succ ≠ n := by
  intro same
  have position : n.position + 1 = n.position := congrArg Numbering.position same
  omega

theorem position_le (early : first ≤ last) : first.position ≤ last.position := (le_iff.mp early).2

/-- The number is given away between two numberings. -/
def Gives (first last : Numbering) (n : Nat) : Prop :=
  ∃ i, first.position ≤ i ∧ i < last.position ∧ first.number i = n

/-- No number is given away twice between two numberings. -/
def Distinct (first last : Numbering) : Prop :=
  ∀ i j, first.position ≤ i → i < j → j < last.position → first.number i ≠ first.number j

theorem gives_next (given : first.succ ≤ last) : first.Gives last first.next :=
  ⟨first.position, Nat.le_refl _, position_le given, rfl⟩

theorem gives_succ_iff : first.Gives first.succ n ↔ n = first.next := by
  constructor
  · rintro ⟨i, low, high, rfl⟩
    have high : i < first.position + 1 := high
    obtain rfl : i = first.position := by omega
    rfl
  · rintro rfl
    exact gives_next le_rfl

theorem distinct_succ (first : Numbering) : first.Distinct first.succ := by
  intro i j low less high
  have high : j < first.position + 1 := high
  omega

theorem gives_iff (early : first ≤ middle) (late : middle ≤ last) :
    first.Gives last n ↔ first.Gives middle n ∨ middle.Gives last n := by
  obtain ⟨same, low⟩ := le_iff.mp early
  have high := position_le late
  unfold Gives
  rw [same]
  constructor
  · rintro ⟨i, begins, ends, rfl⟩
    rcases Nat.lt_or_ge i middle.position with before | after
    · exact .inl ⟨i, begins, before, rfl⟩
    · exact .inr ⟨i, after, ends, rfl⟩
  · rintro (⟨i, begins, ends, rfl⟩ | ⟨i, begins, ends, rfl⟩)
    · exact ⟨i, begins, Nat.lt_of_lt_of_le ends high, rfl⟩
    · exact ⟨i, Nat.le_trans low begins, ends, rfl⟩

namespace Distinct

variable (distinct : first.Distinct last)
include distinct

theorem left (late : middle ≤ last) : first.Distinct middle :=
  fun i j low less high => distinct i j low less (Nat.lt_of_lt_of_le high (position_le late))

theorem right (early : first ≤ middle) : middle.Distinct last := by
  intro i j low less high
  obtain ⟨same, earlier⟩ := le_iff.mp early
  rw [same]
  exact distinct i j (Nat.le_trans earlier low) less high

/-- What was given away first is not given away later. -/
theorem not_gives (early : first ≤ middle) (given : first.Gives middle n) : ¬middle.Gives last n := by
  rintro ⟨j, low, high, same⟩
  obtain ⟨i, begins, ends, rfl⟩ := given
  rw [(le_iff.mp early).1] at same
  exact distinct i j begins (Nat.lt_of_lt_of_le ends low) high same.symm

end Distinct

end DesiredState.Numbering
