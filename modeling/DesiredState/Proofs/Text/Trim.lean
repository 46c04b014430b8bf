import DesiredState.Text.Blank
import Mathlib.Data.List.DropRight

/-!
# Trimmed texts

A text is trimmed when no blank stands at either end.  Trimming makes every text trimmed and leaves
trimmed texts alone, so trimming twice comes to trimming once.
-/

namespace DesiredState.Text

/-- No blank stands at either end. -/
structure Trimmed (cs : List Char) : Prop where
  head : ∀ c ∈ cs.head?, isBlank c = false
  last : ∀ c ∈ cs.getLast?, isBlank c = false

theorem Trimmed.append {front back : List Char} (middle : List Char) (frontTrimmed : Trimmed front)
    (backTrimmed : Trimmed back) (frontFilled : front ≠ []) (backFilled : back ≠ []) :
    Trimmed (front ++ middle ++ back) := by
  constructor
  · intro c member
    apply frontTrimmed.head
    rwa [List.append_assoc, List.head?_append_of_ne_nil _ frontFilled] at member
  · intro c member
    apply backTrimmed.last
    rwa [List.getLast?_append_of_ne_nil _ backFilled] at member

theorem trimEndChars_eq_rdropWhile (cs : List Char) :
    trimEndChars cs = cs.rdropWhile isBlank := rfl

theorem head?_trimEndChars {cs : List Char} (filled : trimEndChars cs ≠ []) :
    (trimEndChars cs).head? = cs.head? := by
  obtain ⟨blanks, split⟩ := List.rdropWhile_prefix isBlank (l := cs)
  rw [← trimEndChars_eq_rdropWhile] at split
  conv_rhs => rw [← split, List.head?_append_of_ne_nil _ filled]

theorem trimmed_trimChars (cs : List Char) : Trimmed (trimChars cs) := by
  constructor
  · intro c member
    have filled : trimChars cs ≠ [] := by
      intro empty
      rw [empty] at member
      cases member
    rw [trimChars, head?_trimEndChars filled] at member
    -- The first character is the one at which `dropWhile` stopped; the end was cut off behind it.
    cases front : cs.dropWhile isBlank with
    | nil => simp [front] at member
    | cons c' rest =>
      simp only [front, List.head?_cons, Option.mem_def, Option.some.injEq] at member
      have stop := List.dropWhile_get_zero_not (p := isBlank) cs (by rw [front]; simp)
      simpa [front, member] using stop
  · intro c member
    have filled : trimChars cs ≠ [] := by
      intro empty
      rw [empty] at member
      cases member
    rw [List.getLast?_eq_some_getLast filled, Option.mem_some] at member
    subst member
    exact Bool.eq_false_iff.mpr (List.rdropWhile_last_not isBlank (cs.dropWhile isBlank) filled)

theorem trimChars_of_trimmed {cs : List Char} (trimmed : Trimmed cs) : trimChars cs = cs := by
  have front : cs.dropWhile isBlank = cs := by
    cases cs with
    | nil => rfl
    | cons c rest => simp [trimmed.head c rfl]
  rw [trimChars, front, trimEndChars_eq_rdropWhile, List.rdropWhile_eq_self_iff]
  intro filled
  simp [trimmed.last _ (List.getLast?_eq_getLast_of_ne_nil filled)]

theorem trimmed_iff {cs : List Char} : Trimmed cs ↔ trimChars cs = cs :=
  ⟨trimChars_of_trimmed, fun same => same ▸ trimmed_trimChars cs⟩

theorem trim_of_trimmed {s : String} (trimmed : Trimmed s.toList) : trim s = s := by
  rw [trim, trimChars_of_trimmed trimmed, String.ofList_toList]

theorem trimmed_trim (s : String) : Trimmed (trim s).toList := by
  rw [trim, String.toList_ofList]
  exact trimmed_trimChars _

theorem trim_trim (s : String) : trim (trim s) = trim s :=
  trim_of_trimmed (trimmed_trim s)

end DesiredState.Text
