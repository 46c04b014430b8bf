import DesiredState.Proofs.Text.Trim
import DesiredState.Text.Lowercase

/-!
# Lower case is final

No character of a lower-case form changes when it is put into lower case again, and none of them is
blank unless the character it comes from is.  So lower case taken twice is lower case taken once,
and the lower-case form of a trimmed text is trimmed.

The table of runs is compared with itself run by run, not letter by letter: the letters that one run
leads to either lie beside another run or, where both go in steps of two, fall between its letters.
-/

namespace DesiredState.Text

/-! ## Runs of letters -/

/-- A code point is one of the letters of a run. -/
def OnRun (n : Nat) (run : Nat × Nat × Nat × Nat) : Prop :=
  run.1 ≤ n ∧ n ≤ run.2.1 ∧ (n - run.1) % run.2.2.1 = 0

/-- No code point from `low` to `high` is a letter of the run; of a sparse stretch only every other
code point counts. -/
def misses (low high : Nat) (sparse : Bool) : Nat × Nat × Nat × Nat → Bool
  | (first, last, step, _) =>
    Nat.blt high first || Nat.blt last low ||
      (sparse && Nat.beq step 2 && Nat.beq ((low + first) % 2) 1)

/-- The lower-case forms of a run's letters miss all of some other runs. -/
def formsMiss (others : List (Nat × Nat × Nat × Nat)) : Nat × Nat × Nat × Nat → Bool
  | (first, last, step, target) =>
    others.all (misses target (target + (last - first)) (Nat.ble last first || Nat.beq step 2))

theorem not_onRun_of_formsMiss {run run' : Nat × Nat × Nat × Nat} {n : Nat}
    {others : List (Nat × Nat × Nat × Nat)} (missed : formsMiss others run = true)
    (member : run' ∈ others) (on : OnRun n run) : ¬ OnRun (run.2.2.2 + (n - run.1)) run' := by
  obtain ⟨first, last, step, target⟩ := run
  obtain ⟨first', last', step', target'⟩ := run'
  have missed := List.all_eq_true.mp missed _ member
  simp only [misses, OnRun, Bool.or_eq_true, Bool.and_eq_true, Nat.blt_eq, Nat.ble_eq,
    Nat.beq_eq] at missed on ⊢
  rintro ⟨above, below, stepped⟩
  -- The stretch ends before the run, or begins after it, or lies between its letters.
  obtain (apart | apart) | ⟨⟨short | rfl, rfl⟩, odd⟩ := missed
  all_goals omega

/-- The characters that a lower-case form must not be: blanks, and the one letter whose form has
two characters. -/
def barredRuns : List (Nat × Nat × Nat × Nat) :=
  [(9, 13, 1, 0), (32, 32, 1, 0), (0x85, 0x85, 1, 0), (0xA0, 0xA0, 1, 0), (0x1680, 0x1680, 1, 0),
    (0x2000, 0x200A, 1, 0), (0x2028, 0x2029, 1, 0), (0x202F, 0x202F, 1, 0), (0x205F, 0x205F, 1, 0),
    (0x3000, 0x3000, 1, 0), (0x130, 0x130, 1, 0)]

theorem lowerRuns_formsMiss : lowerRuns.all (formsMiss (barredRuns ++ lowerRuns)) = true := by
  decide +kernel

/-- A run leads to valid code points beyond ASCII, but for one that leads to a `k`. -/
def formsValid : Nat × Nat × Nat × Nat → Bool
  | (first, last, _, target) =>
    (Nat.ble 0x80 target || (Nat.ble last first && Nat.beq target 107)) &&
      (Nat.blt (target + (last - first)) 0xD800 ||
        (Nat.blt 0xDFFF target && Nat.blt (target + (last - first)) 0x110000))

theorem lowerRuns_formsValid : lowerRuns.all formsValid = true := by
  decide +kernel

theorem find?_run_eq_some {n : Nat} {run : Nat × Nat × Nat × Nat}
    (found : (lowerRuns.find? fun (first, last, step, _) =>
      first ≤ n && n ≤ last && (n - first) % step == 0) = some run) :
    run ∈ lowerRuns ∧ OnRun n run := by
  refine ⟨List.mem_of_find?_eq_some found, ?_⟩
  simpa [OnRun, and_assoc] using List.find?_some found

theorem find?_run_eq_none_iff {n : Nat} :
    (lowerRuns.find? fun (first, last, step, _) =>
      first ≤ n && n ≤ last && (n - first) % step == 0) = none ↔
      ∀ run ∈ lowerRuns, ¬ OnRun n run := by
  simp [List.find?_eq_none, OnRun, and_assoc]

/-! ## Characters -/

theorem toNat_ofNat {n : Nat} (valid : n.isValidChar) : (Char.ofNat n).toNat = n := by
  rw [Char.ofNat, dif_pos valid]
  rfl

/-- A character that is its own lower-case form wherever it stands. -/
def IsLower (c : Char) : Prop := c ≠ 'Σ' ∧ lowerChar c = [c]

instance (c : Char) : Decidable (IsLower c) := inferInstanceAs (Decidable (_ ∧ _))

theorem onRun_of_isBlank {c : Char} (blank : isBlank c = true) :
    ∃ run ∈ barredRuns, OnRun c.toNat run := by
  simp only [isBlank, Bool.or_eq_true, Bool.and_eq_true, decide_eq_true_eq, beq_iff_eq] at blank
  simp only [barredRuns, OnRun, List.mem_cons, exists_eq_or_imp]
  omega

theorem isLower_of_not_onRun {c : Char} (beyond : 0x7F < c.toNat) (single : c.toNat ≠ 0x130)
    (off : ∀ run ∈ lowerRuns, ¬ OnRun c.toNat run) : IsLower c := by
  constructor
  · rintro rfl
    exact off (0x3A3, 0x3AB, 1, 0x3C3) (by decide) ⟨by decide, by decide, by decide⟩
  · rw [lowerChar, if_neg (by omega), if_neg single, find?_run_eq_none_iff.mpr off]

theorem toLower_settled : (List.range 128).all (fun n =>
    decide (IsLower (Char.ofNat n).toLower) &&
      (!isBlank (Char.ofNat n).toLower || isBlank (Char.ofNat n))) = true := by
  decide +kernel

/-- The form of a letter on a run does not change any more and is not blank. -/
theorem form_settled {n : Nat} {run : Nat × Nat × Nat × Nat} (member : run ∈ lowerRuns)
    (on : OnRun n run) :
    IsLower (Char.ofNat (run.2.2.2 + (n - run.1))) ∧
      isBlank (Char.ofNat (run.2.2.2 + (n - run.1))) = false := by
  have missed := List.all_eq_true.mp lowerRuns_formsMiss run member
  have valid := List.all_eq_true.mp lowerRuns_formsValid run member
  have apart : ∀ run' ∈ barredRuns ++ lowerRuns, ¬ OnRun (run.2.2.2 + (n - run.1)) run' :=
    fun run' member' => not_onRun_of_formsMiss missed member' on
  obtain ⟨first, last, step, target⟩ := run
  simp only [formsValid, OnRun, Bool.or_eq_true, Bool.and_eq_true, Nat.blt_eq, Nat.ble_eq,
    Nat.beq_eq] at valid on apart ⊢
  -- Only one run leads into ASCII, and it has a single letter: the sign for kelvin.
  obtain ⟨beyond | ⟨short, rfl⟩, valid⟩ := valid
  · have code : (Char.ofNat (target + (n - first))).toNat = target + (n - first) := by
      apply toNat_ofNat
      simp only [Nat.isValidChar]
      omega
    constructor
    · apply isLower_of_not_onRun
      · omega
      · intro dotted
        rw [code] at dotted
        apply apart (0x130, 0x130, 1, 0) (by simp [barredRuns])
        rw [dotted]
        decide
      · intro run' member'
        rw [code]
        exact apart run' (List.mem_append_right _ member')
    · rw [← Bool.not_eq_true]
      intro blank
      obtain ⟨run', barred, on'⟩ := onRun_of_isBlank blank
      rw [code] at on'
      exact apart run' (List.mem_append_left _ barred) on'
  · have first_eq : n - first = 0 := by omega
    rw [first_eq]
    decide

/-- The lower-case form of a character does not change any more, and is blank only if the character
is. -/
theorem lowerChar_settled {c c' : Char} (member : c' ∈ lowerChar c) :
    IsLower c' ∧ (isBlank c' = true → isBlank c = true) := by
  rw [lowerChar] at member
  split at member
  -- The first 128 characters are checked one by one, the others by their runs.
  next ascii =>
    have checked := List.all_eq_true.mp toLower_settled c.toNat (List.mem_range.mpr (by omega))
    rw [Char.ofNat_toNat, ← List.mem_singleton.mp member] at checked
    simpa [or_iff_not_imp_left] using checked
  next beyond =>
    split at member
    next dotted =>
      simp only [List.mem_cons, List.not_mem_nil, or_false] at member
      rcases member with rfl | rfl
      · exact ⟨by decide, fun blank => absurd blank (by decide)⟩
      · exact ⟨by decide +kernel, fun blank => absurd blank (by decide)⟩
    next single =>
      split at member
      next first last step target found =>
        obtain ⟨listed, on⟩ := find?_run_eq_some found
        obtain ⟨lower, visible⟩ := form_settled listed on
        rw [List.mem_singleton.mp member]
        exact ⟨lower, fun blank => absurd blank (by simp [visible])⟩
      next unfound =>
        rw [List.mem_singleton.mp member]
        exact ⟨isLower_of_not_onRun (by omega) single (find?_run_eq_none_iff.mp unfound), id⟩

theorem lowerChar_ne_nil (c : Char) : lowerChar c ≠ [] := by
  rw [lowerChar]
  split
  · simp
  · split
    · simp
    · split <;> simp

/-! ## Texts -/

def lowerAt (before : List Char) (c : Char) (after : List Char) : List Char :=
  if c = 'Σ' then [lowerSigma before after] else lowerChar c

theorem lowerAfter_cons (before : List Char) (c : Char) (rest : List Char) :
    lowerAfter before (c :: rest) = lowerAt before c rest ++ lowerAfter (c :: before) rest := rfl

theorem lowerAt_settled {before after : List Char} {c c' : Char} (member : c' ∈ lowerAt before c after) :
    IsLower c' ∧ (isBlank c' = true → isBlank c = true) := by
  rw [lowerAt] at member
  split at member
  · rw [List.mem_singleton.mp member, lowerSigma]
    split <;> exact ⟨by decide +kernel, fun blank => absurd blank (by decide)⟩
  · exact lowerChar_settled member

theorem lowerAt_ne_nil (before : List Char) (c : Char) (after : List Char) :
    lowerAt before c after ≠ [] := by
  rw [lowerAt]
  split
  · simp
  · exact lowerChar_ne_nil c

theorem isLower_of_mem_lowerAfter {before cs : List Char} {c : Char}
    (member : c ∈ lowerAfter before cs) : IsLower c := by
  induction cs generalizing before with
  | nil => cases member
  | cons c' rest inductionHypothesis =>
    rw [lowerAfter_cons, List.mem_append] at member
    rcases member with member | member
    · exact (lowerAt_settled member).1
    · exact inductionHypothesis member

theorem lowerAfter_of_isLower {before cs : List Char} (lower : ∀ c ∈ cs, IsLower c) :
    lowerAfter before cs = cs := by
  induction cs generalizing before with
  | nil => rfl
  | cons c rest inductionHypothesis =>
    obtain ⟨notSigma, same⟩ := lower c List.mem_cons_self
    rw [lowerAfter_cons, lowerAt, if_neg notSigma, same,
      inductionHypothesis fun c' member => lower c' (List.mem_cons_of_mem _ member)]
    rfl

theorem lowercase_of_isLower {s : String} (lower : ∀ c ∈ s.toList, IsLower c) : lowercase s = s := by
  rw [lowercase, lowerAfter_of_isLower lower, String.ofList_toList]

theorem isLower_of_mem_lowercase {s : String} {c : Char} (member : c ∈ (lowercase s).toList) :
    IsLower c := by
  rw [lowercase, String.toList_ofList] at member
  exact isLower_of_mem_lowerAfter member

theorem lowercase_lowercase (s : String) : lowercase (lowercase s) = lowercase s :=
  lowercase_of_isLower fun _ => isLower_of_mem_lowercase

theorem trimmed_lowerAfter {before cs : List Char} (trimmed : Trimmed cs) :
    Trimmed (lowerAfter before cs) := by
  constructor
  · cases cs with
    | nil => nofun
    | cons c rest =>
      intro c' member
      rw [lowerAfter_cons, List.head?_append_of_ne_nil _ (lowerAt_ne_nil _ _ _)] at member
      have visible := (lowerAt_settled (List.mem_of_mem_head? member)).2
      rw [trimmed.head c rfl] at visible
      simpa using visible
  · -- The induction takes the first character away, so it knows of the last one only.
    have last := trimmed.last
    clear trimmed
    induction cs generalizing before with
    | nil => nofun
    | cons c rest inductionHypothesis =>
      intro c' member
      rw [lowerAfter_cons] at member
      cases rest with
      | nil =>
        rw [lowerAfter, List.append_nil] at member
        have visible := (lowerAt_settled (List.mem_of_mem_getLast? member)).2
        rw [last c rfl] at visible
        simpa using visible
      | cons c'' rest =>
        have filled : lowerAfter (c :: before) (c'' :: rest) ≠ [] := by
          simp [lowerAfter_cons, lowerAt_ne_nil]
        rw [List.getLast?_append_of_ne_nil _ filled] at member
        exact inductionHypothesis (by simpa using last) c' member

theorem trimmed_lowercase {s : String} (trimmed : Trimmed s.toList) :
    Trimmed (lowercase s).toList := by
  rw [lowercase, String.toList_ofList]
  exact trimmed_lowerAfter trimmed

end DesiredState.Text
