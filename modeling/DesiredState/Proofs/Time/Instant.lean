import DesiredState.Time.Instant

/-!
# Instants are read as they were written

The text of an instant on the wire is read back as that instant, to the nanosecond and over the whole
calendar.

Contents:

* `number?_padded`, `field?_padded` — numbers of a certain width.
* `year?_yearText`, `fraction?_fractionText` — the parts that have more than one form.
* `parse?_wire` — the whole text.
-/

namespace DesiredState.Instant

/-! ## Numbers of a certain width -/

/-- No number goes on with this text, and no blank begins it. -/
def Breaks (cs : List Char) : Prop :=
  ∃ c rest, cs = c :: rest ∧ c.isDigit = false ∧ Text.isBlank c = false

theorem isDigit_of_mem_padded {width n : Nat} {c : Char} (member : c ∈ padded width n) :
    c.isDigit = true := by
  rcases List.mem_append.mp member with zero | digit
  · rw [List.eq_of_mem_replicate zero]
    rfl
  · exact Nat.isDigit_of_mem_toDigits (by decide) (by decide) digit

theorem digitsValue_padded (width n : Nat) : digitsValue (padded width n) = n := by
  have same : digitsValue (padded width n) = Nat.ofDigitChars 10 (padded width n) 0 := by
    rw [Nat.ofDigitChars_eq_foldl]
    rfl
  rw [same, padded, Nat.ofDigitChars_append, Nat.ofDigitChars_replicate_zero, Nat.mul_zero,
    Nat.ofDigitChars_ten_toDigits]

theorem length_padded {width n : Nat} (fits : n < Nat.pow 10 width) (some : 0 < width) :
    (padded width n).length = width := by
  have short := (Nat.length_toDigits_le_iff (b := 10) (n := n) (by decide) some).mpr fits
  simp only [padded, List.length_append, List.length_replicate]
  omega

theorem padded_ne_nil (width n : Nat) : padded width n ≠ [] := by
  simp [padded]

theorem isBlank_of_isDigit {c : Char} (digit : c.isDigit = true) : Text.isBlank c = false := by
  simp only [Char.isDigit, Bool.and_eq_true, decide_eq_true_eq] at digit
  have low : 48 ≤ c.toNat := digit.1
  have high : c.toNat ≤ 57 := digit.2
  simp only [Text.isBlank, Bool.or_eq_false_iff, Bool.and_eq_false_iff, decide_eq_false_iff_not,
    beq_eq_false_iff_ne]
  omega

theorem skipBlanks_padded (width n : Nat) (rest : List Char) :
    skipBlanks (padded width n ++ rest) = padded width n ++ rest := by
  obtain ⟨c, cs, same⟩ := List.exists_cons_of_ne_nil (padded_ne_nil width n)
  have digit : c.isDigit = true := isDigit_of_mem_padded (same ▸ List.mem_cons_self)
  simp [same, skipBlanks, isBlank_of_isDigit digit]

theorem skipBlanks_of_breaks {cs : List Char} (breaks : Breaks cs) : skipBlanks cs = cs := by
  obtain ⟨c, rest, rfl, -, solid⟩ := breaks
  simp [skipBlanks, solid]

theorem takeWhile_padded (width n : Nat) {rest : List Char} (breaks : Breaks rest) (k : Nat) :
    (padded width n ++ rest.take k).takeWhile Char.isDigit = padded width n := by
  obtain ⟨c, rest, rfl, stop, -⟩ := breaks
  rw [List.takeWhile_append_of_pos fun c member => isDigit_of_mem_padded member]
  cases k <;> simp [stop]

theorem number?_padded {most width n : Nat} (room : (padded width n).length ≤ most)
    {rest : List Char} (breaks : Breaks rest) :
    number? most (padded width n ++ rest) = some (n, rest) := by
  have digits : ((padded width n ++ rest).take most).takeWhile Char.isDigit = padded width n := by
    rw [List.take_append, List.take_of_length_le room, takeWhile_padded width n breaks]
  simp [number?, digits, digitsValue_padded, padded_ne_nil]

theorem field?_padded {n : Nat} (fits : n < 100) {rest : List Char} (breaks : Breaks rest) :
    field? (padded 2 n ++ rest) = some (n, rest) := by
  rw [field?, skipBlanks_padded]
  exact number?_padded (Nat.le_of_eq (length_padded fits (by decide))) breaks

/-! ## Years and fractions -/

theorem number?_padded_all (width n : Nat) {rest : List Char} (breaks : Breaks rest) :
    number? (padded width n ++ rest).length (padded width n ++ rest) = some (n, rest) :=
  number?_padded (by simp) breaks

theorem year?_yearText (year : Int) {rest : List Char} (breaks : Breaks rest) :
    year? (yearText year ++ rest) = some (year, rest) := by
  unfold yearText
  split
  next negative =>
    have solid : Text.isBlank '-' = false := by decide
    have back : -((year.natAbs : Nat) : Int) = year := by omega
    simp only [List.cons_append, year?, skipBlanks, List.dropWhile_cons, solid, Bool.false_eq_true,
      if_false, number?_padded_all 4 year.natAbs breaks, Option.map_some, back]
  next positive =>
    have back : ((year.natAbs : Nat) : Int) = year := by omega
    split
    next small =>
      have room : (padded 4 year.natAbs).length ≤ 4 :=
        Nat.le_of_eq (length_padded (show _ < 10000 by omega) (by decide))
      obtain ⟨c, cs, same⟩ := List.exists_cons_of_ne_nil (padded_ne_nil 4 year.natAbs)
      have digit : c.isDigit = true := isDigit_of_mem_padded (same ▸ List.mem_cons_self)
      have read := number?_padded room breaks
      rw [year?, skipBlanks_padded]
      simp only [same, List.cons_append] at read ⊢
      split
      next heq =>
        cases heq
        exact absurd digit (by decide)
      next heq =>
        cases heq
        exact absurd digit (by decide)
      next =>
        simp [read, back]
    next =>
      have solid : Text.isBlank '+' = false := by decide
      simp only [List.cons_append, year?, skipBlanks, List.dropWhile_cons, solid]
      simp [number?_padded_all 4 year.natAbs breaks, -List.length_append, back]

theorem breaks_cons {c : Char} (stop : c.isDigit = false) (solid : Text.isBlank c = false)
    (rest : List Char) : Breaks (c :: rest) :=
  ⟨c, rest, rfl, stop, solid⟩

/-- A fraction of `width` digits counts units of `10 ^ (9 - width)` nanoseconds. -/
theorem fraction?_padded {width n : Nat} (fits : n < Nat.pow 10 width) (some : 0 < width)
    (narrow : width ≤ 9) {rest : List Char} (breaks : Breaks rest) :
    fraction? ('.' :: (padded width n ++ rest)) =
      Option.some (n * Nat.pow 10 (9 - width), rest) := by
  have digits : (padded width n ++ rest).takeWhile Char.isDigit = padded width n := by
    simpa using takeWhile_padded width n breaks rest.length
  have long := length_padded fits some
  have kept : (padded width n).take 9 = padded width n := List.take_of_length_le (by omega)
  simp [fraction?, digits, kept, digitsValue_padded, padded_ne_nil, long]

theorem fraction?_fractionText {nano : Nat} (fits : nano < 1000000000) (rest : List Char) :
    fraction? (fractionText nano ++ 'Z' :: rest) = some (nano, 'Z' :: rest) := by
  have breaks : Breaks ('Z' :: rest) := breaks_cons (by decide) (by decide) rest
  unfold fractionText
  split
  next none =>
    simp [fraction?, none]
  next =>
    split
    next whole =>
      have exact : nano / 1000000 * Nat.pow 10 (9 - 3) = nano :=
        (show nano / 1000000 * 1000000 = nano by omega)
      have fits : nano / 1000000 < Nat.pow 10 3 := (show _ < 1000 by omega)
      rw [List.cons_append, fraction?_padded fits (by decide) (by decide) breaks, exact]
    next =>
      split
      next whole =>
        have exact : nano / 1000 * Nat.pow 10 (9 - 6) = nano :=
          (show nano / 1000 * 1000 = nano by omega)
        have fits : nano / 1000 < Nat.pow 10 6 := (show _ < 1000000 by omega)
        rw [List.cons_append, fraction?_padded fits (by decide) (by decide) breaks, exact]
      next =>
        have fits' : nano < Nat.pow 10 9 := fits
        rw [List.cons_append, fraction?_padded fits' (by decide) (by decide) breaks]
        simp

/-! ## The whole text -/

theorem ofFields?_self (t : Instant) :
    ofFields? t.year t.month t.day t.hour t.minute t.second t.nano = some t := by
  simp [ofFields?, t.valid]

theorem daysInMonth_le (year : Int) (month : Nat) : daysInMonth year month ≤ 31 := by
  unfold daysInMonth
  grind

theorem parse?_wire (t : Instant) : parse? t.wire = some t := by
  have valid := t.valid
  have short := daysInMonth_le t.year t.month
  simp only [isCalendarTime, Bool.and_eq_true, decide_eq_true_eq] at valid
  have month : t.month < 100 := by omega
  have day : t.day < 100 := by omega
  have hour : t.hour < 100 := by omega
  have minute : t.minute < 100 := by omega
  have second : t.second < 100 := by omega
  have nano : t.nano < 1000000000 := by omega
  have dash (rest : List Char) : Breaks ('-' :: rest) := breaks_cons (by decide) (by decide) rest
  have colon (rest : List Char) : Breaks (':' :: rest) := breaks_cons (by decide) (by decide) rest
  have letter (rest : List Char) : Breaks ('T' :: rest) := breaks_cons (by decide) (by decide) rest
  have zone : Breaks ['Z'] := breaks_cons (by decide) (by decide) []
  have fraction : Breaks (fractionText t.nano ++ ['Z']) := by
    unfold fractionText
    split
    · exact zone
    · split
      · exact breaks_cons (by decide) (by decide) _
      · split <;> exact breaks_cons (by decide) (by decide) _
  have onward {α β : Type} (a : α) (f : α → Option β) : (some a >>= f) = f a := rfl
  simp only [parse?, wire, String.toList_ofList, dateText, timeText, hourMinuteText,
    List.append_assoc, List.cons_append, ofChars?]
  rw [year?_yearText _ (dash _)]
  simp only [onward, skipBlanks_of_breaks (dash _), mark?, if_true,
    field?_padded month (dash _), field?_padded day (letter _), separator?]
  simp only [onward, decide_true, Bool.true_or, if_true,
    field?_padded hour (colon _), skipBlanks_of_breaks (colon _),
    field?_padded minute (colon _), field?_padded second fraction,
    fraction?_fractionText nano, skipBlanks_of_breaks zone, offset?]
  simp only [onward, skipBlanks, List.dropWhile_nil, List.isEmpty_nil, if_true, ofFields?_self,
    minusMinutes?]

end DesiredState.Instant
