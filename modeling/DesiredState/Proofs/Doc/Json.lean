import DesiredState.Doc.Json.Printer
import DesiredState.Doc.Json.Reader

/-!
# Reading what was written

The form for readers of a document is read back as that document, to the end of the text.  This
holds of plain documents: those whose integers fit the range of the reader and which hold neither
spelled numbers nor faults, and no keys but names.  How deeply such a document is nested does not
matter to the text, but to those who read on from it.

Contents:

* `Doc.Plain` — the documents that are meant.
* `number_toString`, `string?_quote` — the leaves.
* `value_prettyAt`, `items_prettyItems`, `fields_prettyFields` — the grammar.
* `read_pretty` — the whole text.
-/

namespace DesiredState

namespace Doc

mutual

/-- A document without faults and spelled numbers, whose integers fit 64 bits and whose keys are
names, nested in at most a number of levels. -/
def Plain (levels : Nat) : Doc → Prop
  | .null => True
  | .bool _ => True
  | .int n => -9223372036854775808 ≤ n ∧ n ≤ 18446744073709551615
  | .real _ => False
  | .text _ => True
  | .list items => 0 < levels ∧ PlainItems (levels - 1) items
  | .record fields => 0 < levels ∧ PlainFields (levels - 1) fields
  | .fault _ => False

def PlainItems (levels : Nat) : List Doc → Prop
  | [] => True
  | d :: rest => Plain levels d ∧ PlainItems levels rest

def PlainFields (levels : Nat) : List (Key × Doc) → Prop
  | [] => True
  | (k, d) :: rest => (∃ s, k = .name s) ∧ Plain levels d ∧ PlainFields levels rest

end

end Doc

namespace Json

/-! ## Blanks -/

theorem skipSpace_newline (depth : Nat) (cs : List Char) :
    skipSpace ((newline depth).toList ++ cs) = skipSpace cs := by
  have blank : ∀ (n : Nat) (cs : List Char),
      skipSpace (List.replicate n ' ' ++ cs) = skipSpace cs := by
    intro n
    induction n with
    | zero => exact fun _ => rfl
    | succ n inductionHypothesis =>
      intro cs
      rw [List.replicate_succ, List.cons_append, ← inductionHypothesis cs]
      rfl
  rw [newline, String.toList_ofList, List.cons_append]
  exact blank _ cs

/-- A text that begins with a character that is no blank and closes nothing. -/
def Opens (cs : List Char) : Prop :=
  ∃ c rest, cs = c :: rest ∧ isSpace c = false ∧ c ≠ ']' ∧ c ≠ '\x7d'

theorem Opens.append {cs : List Char} (opens : Opens cs) (more : List Char) :
    Opens (cs ++ more) := by
  obtain ⟨c, rest, rfl, apart⟩ := opens
  exact ⟨c, rest ++ more, rfl, apart⟩

theorem Opens.length_pos {cs : List Char} (opens : Opens cs) : 0 < cs.length := by
  obtain ⟨c, rest, rfl, -⟩ := opens
  exact Nat.succ_pos _

theorem Opens.skipSpace_eq {cs : List Char} (opens : Opens cs) : skipSpace cs = cs := by
  obtain ⟨c, rest, rfl, solid, -⟩ := opens
  simp [skipSpace, solid]

/-! ## Numbers -/

/-- No number goes on with this text. -/
def EndsNumber : List Char → Prop
  | [] => True
  | c :: _ => c = ',' ∨ c = '\n'

theorem endsNumber_newline (depth : Nat) (cs : List Char) :
    EndsNumber ((newline depth).toList ++ cs) := by
  rw [newline, String.toList_ofList]
  exact .inr rfl

theorem decimal_toDigits (n : Nat) : decimal (Nat.toDigits 10 n) = n := by
  have same : decimal (Nat.toDigits 10 n) = Nat.ofDigitChars 10 (Nat.toDigits 10 n) 0 := by
    rw [Nat.ofDigitChars_eq_foldl]
    rfl
  rw [same, Nat.ofDigitChars_ten_toDigits]

theorem takeWhile_isDigit_toDigits (n : Nat) {rest : List Char} (ends : EndsNumber rest) :
    (Nat.toDigits 10 n ++ rest).takeWhile Char.isDigit = Nat.toDigits 10 n := by
  have digits : ∀ c ∈ Nat.toDigits 10 n, c.isDigit = true := fun c member =>
    Nat.isDigit_of_mem_toDigits (by decide) (by decide) member
  rw [List.takeWhile_append_of_pos digits]
  cases rest with
  | nil => simp
  | cons c rest => rcases ends with rfl | rfl <;> simp

/-- Only zero is written with a zero in front. -/
theorem eq_zero_of_head?_toDigits {n : Nat} (zero : (Nat.toDigits 10 n).head? = some '0') :
    n = 0 := by
  induction n using Nat.strongRecOn with
  | ind n inductionHypothesis =>
    rw [Nat.toDigits_eq_if (by decide)] at zero
    split at zero
    · simpa using zero
    next large =>
      have first : (Nat.toDigits 10 (n / 10)).head? = some '0' := by
        rwa [List.head?_append, Option.or_of_isSome] at zero
        simp [List.isSome_head?]
      have := inductionHypothesis (n / 10) (by omega) first
      omega

theorem unsignedNumber_toDigits (negative : Bool) (n : Nat) {rest : List Char}
    (ends : EndsNumber rest) :
    unsignedNumber negative (Nat.toDigits 10 n ++ rest) =
      (integer negative (Nat.toDigits 10 n), some rest) := by
  have leading : ¬((Nat.toDigits 10 n).isEmpty ||
      ((Nat.toDigits 10 n).head? = some '0' && (Nat.toDigits 10 n).length > 1)) = true := by
    simp only [Bool.or_eq_true, List.isEmpty_iff, Nat.toDigits_ne_nil, false_or, Bool.and_eq_true,
      decide_eq_true_eq, not_and]
    intro zero
    rw [eq_zero_of_head?_toDigits zero, Nat.toDigits_zero]
    decide
  have fraction : fractionPart rest = some ([], rest) := by
    cases rest with
    | nil => rfl
    | cons c rest => rcases ends with rfl | rfl <;> rfl
  have exponent : exponentPart rest = some ([], rest) := by
    cases rest with
    | nil => rfl
    | cons c rest => rcases ends with rfl | rfl <;> rfl
  simp only [unsignedNumber, takeWhile_isDigit_toDigits n ends, List.drop_left]
  rw [if_neg leading]
  simp [fraction, exponent]

theorem number_toString {n : Int} {levels : Nat} (fits : (Doc.int n).Plain levels) {rest : List Char}
    (ends : EndsNumber rest) : number ((toString n).toList ++ rest) = (.int n, some rest) := by
  obtain ⟨least, most⟩ := fits
  cases n with
  | ofNat n =>
    have text : (toString (Int.ofNat n)).toList = Nat.toDigits 10 n := Nat.toList_repr
    have first : number (Nat.toDigits 10 n ++ rest) =
        unsignedNumber false (Nat.toDigits 10 n ++ rest) := by
      obtain ⟨c, cs, digits⟩ := List.exists_cons_of_ne_nil (Nat.toDigits_ne_nil (b := 10) (n := n))
      have digit : c.isDigit = true := Nat.isDigit_of_mem_toDigits (b := 10) (n := n) (by decide)
        (by decide) (digits ▸ List.mem_cons_self)
      rw [digits, List.cons_append, number.eq_2]
      intro rest same
      cases (List.cons.inj same).1
      cases digit
    rw [text, first, unsignedNumber_toDigits false n ends, integer, decimal_toDigits]
    have small : n ≤ 18446744073709551615 := by
      have : (n : Int) ≤ 18446744073709551615 := most
      omega
    simp [small]
  | negSucc n =>
    have text : (toString (Int.negSucc n)).toList = '-' :: Nat.toDigits 10 (n + 1) := by
      show ("-" ++ (n + 1).repr).toList = _
      simp
    rw [text, List.cons_append, number, unsignedNumber_toDigits true (n + 1) ends, integer,
      decimal_toDigits]
    have large : ¬(decide (n + 1 = 0) || decide (n + 1 > 9223372036854775808)) = true := by
      rw [Bool.or_eq_true, decide_eq_true_eq, decide_eq_true_eq]
      omega
    rw [if_pos rfl, if_neg large]
    rfl

/-! ## Texts -/

theorem hexValue?_escapeDigit {n : Nat} (digit : n < 16) : hexValue? (escapeDigit n) = some n := by
  revert n
  decide

theorem escapedUnit?_control {c : Char} (control : c.toNat < 0x20) (rest : List Char) :
    escapedUnit? ('0' :: '0' :: escapeDigit (c.toNat / 16) :: escapeDigit (c.toNat % 16) :: rest) =
      some (c, rest) := by
  have zero : hexValue? '0' = some 0 := by decide
  have whole : 4096 * 0 + 256 * 0 + 16 * (c.toNat / 16) + c.toNat % 16 = c.toNat := by omega
  simp only [escapedUnit?, hexUnit?, zero, hexValue?_escapeDigit (show c.toNat / 16 < 16 by omega),
    hexValue?_escapeDigit (show c.toNat % 16 < 16 by omega), Option.bind_eq_bind, Option.bind_some,
    whole, Char.ofNat_toNat]
  have low : ¬0xDC00 ≤ c.toNat := by omega
  have high : ¬0xD800 ≤ c.toNat := by omega
  simp [low, high]

/-- An escaped character is read back in one step. -/
theorem stringChars_escapeChar (c : Char) (fuel : Nat) (seen rest : List Char) :
    stringChars (fuel + 1) seen (escapeChar c ++ rest) = stringChars fuel (c :: seen) rest := by
  have named : ∀ e, e ≠ 'u' → shortEscape? e = some c → escapeChar c = ['\\', e] →
      stringChars (fuel + 1) seen (escapeChar c ++ rest) = stringChars fuel (c :: seen) rest := by
    intro e plain short escaped
    simp [escaped, stringChars, plain, short]
  by_cases quote : c = '"'
  · exact named '"' (by decide) (by subst quote; decide) (by subst quote; decide)
  by_cases slash : c = '\\'
  · exact named '\\' (by decide) (by subst slash; decide) (by subst slash; decide)
  by_cases feed : c = '\n'
  · exact named 'n' (by decide) (by subst feed; decide) (by subst feed; decide)
  by_cases tab : c = '\t'
  · exact named 't' (by decide) (by subst tab; decide) (by subst tab; decide)
  by_cases carriage : c = '\r'
  · exact named 'r' (by decide) (by subst carriage; decide) (by subst carriage; decide)
  have numbered : ∀ n, c.toNat = n → c = Char.ofNat n := by
    rintro n rfl
    exact (Char.ofNat_toNat c).symm
  by_cases back : c.toNat = 8
  · cases numbered 8 back
    exact named 'b' (by decide) (by decide) (by decide)
  by_cases form : c.toNat = 12
  · cases numbered 12 form
    exact named 'f' (by decide) (by decide) (by decide)
  by_cases control : c.toNat < 0x20
  · simp [escapeChar, quote, slash, feed, tab, carriage, back, form, control, stringChars,
      escapedUnit?_control control]
  · simp [escapeChar, quote, slash, feed, tab, carriage, back, form, control, stringChars]

theorem stringChars_flatMap (cs : List Char) {fuel : Nat} (enough : cs.length < fuel)
    (seen rest : List Char) :
    stringChars fuel seen (cs.flatMap escapeChar ++ '"' :: rest) =
      some (cs.reverse ++ seen, rest) := by
  induction cs generalizing fuel seen with
  | nil =>
    obtain ⟨fuel, rfl⟩ := Nat.exists_eq_succ_of_ne_zero (Nat.ne_of_gt enough)
    simp [stringChars]
  | cons c cs inductionHypothesis =>
    obtain ⟨fuel, rfl⟩ := Nat.exists_eq_succ_of_ne_zero (Nat.ne_of_gt (Nat.zero_lt_of_lt enough))
    rw [List.flatMap_cons, List.append_assoc, stringChars_escapeChar,
      inductionHypothesis (by simpa using enough)]
    simp

theorem length_le_flatMap_escapeChar (cs : List Char) :
    cs.length ≤ (cs.flatMap escapeChar).length := by
  induction cs with
  | nil => exact Nat.le_refl _
  | cons c cs inductionHypothesis =>
    have some : 0 < (escapeChar c).length := by
      unfold escapeChar
      repeat' split
      all_goals simp
    rw [List.flatMap_cons, List.length_append, List.length_cons]
    omega

theorem quote_toList (s : String) :
    (quote s).toList = '"' :: (s.toList.flatMap escapeChar ++ ['"']) := by
  rw [quote, String.toList_ofList]

/-- What follows the opening quote of a written text is that text, a quote, and the rest. -/
theorem string?_quote (s : String) (rest : List Char) :
    string? (s.toList.flatMap escapeChar ++ '"' :: rest) = some (s, rest) := by
  have enough : s.toList.length < (s.toList.flatMap escapeChar ++ '"' :: rest).length + 1 := by
    have := length_le_flatMap_escapeChar s.toList
    simp only [List.length_append]
    omega
  rw [string?, stringChars_flatMap _ enough]
  simp

/-! ## The first character of a document -/

/-- Numbers begin with a digit or a minus. -/
theorem numeric_toString (n : Int) :
    ∃ c cs, (toString n).toList = c :: cs ∧ (c.isDigit = true ∨ c = '-') := by
  cases n with
  | ofNat n =>
    have text : (toString (Int.ofNat n)).toList = Nat.toDigits 10 n := Nat.toList_repr
    obtain ⟨c, cs, digits⟩ := List.exists_cons_of_ne_nil (Nat.toDigits_ne_nil (b := 10) (n := n))
    refine ⟨c, cs, text.trans digits, .inl ?_⟩
    exact Nat.isDigit_of_mem_toDigits (b := 10) (n := n) (by decide) (by decide)
      (digits ▸ List.mem_cons_self)
  | negSucc n =>
    refine ⟨'-', Nat.toDigits 10 (n + 1), ?_, .inr rfl⟩
    show ("-" ++ (n + 1).repr).toList = _
    simp

theorem ne_of_numeric {c : Char} (numeric : c.isDigit = true ∨ c = '-') {other : Char}
    (apart : other.isDigit = false ∧ other ≠ '-') : c ≠ other := by
  rintro rfl
  rcases numeric with digit | minus
  · exact absurd digit (by simp [apart.1])
  · exact apart.2 minus

theorem opens_toString (n : Int) : Opens (toString n).toList := by
  obtain ⟨c, cs, same, numeric⟩ := numeric_toString n
  refine ⟨c, cs, same, ?_, ne_of_numeric numeric (by decide), ne_of_numeric numeric (by decide)⟩
  simp [isSpace, ne_of_numeric numeric (show Char.isDigit ' ' = false ∧ ' ' ≠ '-' by decide),
    ne_of_numeric numeric (show Char.isDigit '\n' = false ∧ '\n' ≠ '-' by decide),
    ne_of_numeric numeric (show Char.isDigit '\t' = false ∧ '\t' ≠ '-' by decide),
    ne_of_numeric numeric (show Char.isDigit '\r' = false ∧ '\r' ≠ '-' by decide)]

open Doc

theorem toList_prettyAt_list (depth : Nat) (d : Doc) (rest : List Doc) :
    (prettyAt depth (.list (d :: rest))).toList =
      '[' :: ((prettyItems (depth + 1) (d :: rest)).toList ++ ((newline depth).toList ++ [']'])) := by
  simp [prettyAt]

theorem toList_prettyItems_one (depth : Nat) (d : Doc) :
    (prettyItems depth [d]).toList = (newline depth).toList ++ (prettyAt depth d).toList := by
  simp [prettyItems]

theorem toList_prettyFields_one (depth : Nat) (s : String) (d : Doc) :
    (prettyFields depth [(.name s, d)]).toList =
      (newline depth).toList ++ ((quote s).toList ++ (':' :: ' ' :: (prettyAt depth d).toList)) := by
  simp [prettyFields, keyText]

theorem toList_prettyItems_cons (depth : Nat) (d d' : Doc) (ds : List Doc) :
    (prettyItems depth (d :: d' :: ds)).toList =
      (newline depth).toList ++ ((prettyAt depth d).toList ++
        (',' :: (prettyItems depth (d' :: ds)).toList)) := by
  simp [prettyItems]

theorem toList_prettyFields_cons (depth : Nat) (s : String) (d : Doc) (f : Key × Doc)
    (fs : List (Key × Doc)) :
    (prettyFields depth ((.name s, d) :: f :: fs)).toList =
      (newline depth).toList ++ ((quote s).toList ++ (':' :: ' ' :: ((prettyAt depth d).toList ++
        (',' :: (prettyFields depth (f :: fs)).toList)))) := by
  simp [prettyFields, keyText]

theorem toList_prettyAt_record (depth : Nat) (f : Key × Doc) (rest : List (Key × Doc)) :
    (prettyAt depth (.record (f :: rest))).toList =
      '\x7b' :: ((prettyFields (depth + 1) (f :: rest)).toList ++
        ((newline depth).toList ++ ['\x7d'])) := by
  simp [prettyAt]

theorem opens_prettyAt {levels : Nat} {d : Doc} (plain : d.Plain levels) (depth : Nat) :
    Opens (d.prettyAt depth).toList := by
  cases d with
  | null => exact ⟨'n', ['u', 'l', 'l'], by simp [prettyAt], by decide, by decide, by decide⟩
  | bool b =>
    cases b with
    | false =>
      exact ⟨'f', ['a', 'l', 's', 'e'], by simp [prettyAt], by decide, by decide, by decide⟩
    | true => exact ⟨'t', ['r', 'u', 'e'], by simp [prettyAt], by decide, by decide, by decide⟩
  | int n => exact opens_toString n
  | text s => exact ⟨'"', _, quote_toList s, by decide, by decide, by decide⟩
  | list items =>
    cases items with
    | nil => exact ⟨'[', [']'], by simp [prettyAt], by decide, by decide, by decide⟩
    | cons d rest =>
      exact ⟨'[', _, toList_prettyAt_list depth d rest, by decide, by decide, by decide⟩
  | record fields =>
    cases fields with
    | nil => exact ⟨'\x7b', ['\x7d'], by simp [prettyAt], by decide, by decide, by decide⟩
    | cons f rest =>
      exact ⟨'\x7b', _, toList_prettyAt_record depth f rest, by decide, by decide, by decide⟩
  | real _ => cases plain
  | fault _ => cases plain

theorem opens_prettyItems {levels : Nat} {d : Doc} (plain : d.Plain levels) (ds : List Doc)
    (depth : Nat) (more : List Char) : Opens (skipSpace ((prettyItems depth (d :: ds)).toList ++ more)) := by
  have opens := opens_prettyAt plain depth
  cases ds with
  | nil =>
    rw [toList_prettyItems_one, List.append_assoc, skipSpace_newline]
    rw [(opens.append more).skipSpace_eq]
    exact opens.append more
  | cons d' ds =>
    rw [toList_prettyItems_cons, List.append_assoc, skipSpace_newline, List.append_assoc]
    rw [(opens.append _).skipSpace_eq]
    exact opens.append _

theorem opens_quote (s : String) : Opens (quote s).toList :=
  ⟨'"', _, quote_toList s, by decide, by decide, by decide⟩

theorem opens_prettyFields (s : String) (d : Doc) (fs : List (Key × Doc)) (depth : Nat)
    (more : List Char) :
    Opens (skipSpace ((prettyFields depth ((.name s, d) :: fs)).toList ++ more)) := by
  cases fs with
  | nil =>
    rw [toList_prettyFields_one, List.append_assoc, skipSpace_newline, List.append_assoc]
    rw [((opens_quote s).append _).skipSpace_eq]
    exact (opens_quote s).append _
  | cons f fs =>
    rw [toList_prettyFields_cons, List.append_assoc, skipSpace_newline, List.append_assoc]
    rw [((opens_quote s).append _).skipSpace_eq]
    exact (opens_quote s).append _

/-! ## The grammar -/

theorem skipSpace_skipSpace (cs : List Char) : skipSpace (skipSpace cs) = skipSpace cs := by
  induction cs with
  | nil => rfl
  | cons c cs inductionHypothesis =>
    by_cases blank : isSpace c = true
    · simpa [skipSpace, blank] using inductionHypothesis
    · simp [skipSpace, blank]

/-- Blanks before a value do not count. -/
theorem value_skipSpace (fuel : Nat) (cs : List Char) :
    value fuel (skipSpace cs) = value fuel cs := by
  cases fuel with
  | zero => rfl
  | succ fuel => rw [value, value, skipSpace_skipSpace]

theorem value_quote (fuel : Nat) (s : String) (rest : List Char) :
    value (fuel + 1) ((quote s).toList ++ rest) = (.text s, some rest) := by
  have read := string?_quote s rest
  simp [quote_toList, value, skipSpace, isSpace, read]

theorem value_bracket (fuel : Nat) {cs : List Char} (opens : Opens (skipSpace cs)) :
    value (fuel + 1) ('[' :: cs) = (.list (items fuel cs).1, (items fuel cs).2) := by
  obtain ⟨c, rest, same, -, apart, -⟩ := opens
  have solid : skipSpace ('[' :: cs) = '[' :: cs := rfl
  rw [value, solid]
  simp [same, apart]

theorem value_brace (fuel : Nat) {cs : List Char} (opens : Opens (skipSpace cs)) :
    value (fuel + 1) ('\x7b' :: cs) = (.record (fields fuel cs).1, (fields fuel cs).2) := by
  obtain ⟨c, rest, same, -, -, apart⟩ := opens
  have solid : skipSpace ('\x7b' :: cs) = '\x7b' :: cs := rfl
  rw [value, solid]
  simp [same, apart]

theorem value_newline (fuel depth : Nat) (cs : List Char) :
    value fuel ((newline depth).toList ++ cs) = value fuel cs := by
  rw [← value_skipSpace, skipSpace_newline, value_skipSpace]

theorem value_toString {n : Int} {levels : Nat} (fits : (Doc.int n).Plain levels) (fuel : Nat)
    {rest : List Char} (ends : EndsNumber rest) :
    value (fuel + 1) ((toString n).toList ++ rest) = (.int n, some rest) := by
  have solid := ((opens_toString n).append rest).skipSpace_eq
  rw [value, solid, ← number_toString fits ends]
  obtain ⟨c, cs, same, numeric⟩ := numeric_toString n
  rw [same]
  simp [ne_of_numeric numeric (show Char.isDigit '"' = false ∧ '"' ≠ '-' by decide),
    ne_of_numeric numeric (show Char.isDigit '[' = false ∧ '[' ≠ '-' by decide),
    ne_of_numeric numeric (show Char.isDigit '\x7b' = false ∧ '\x7b' ≠ '-' by decide),
    ne_of_numeric numeric (show Char.isDigit 't' = false ∧ 't' ≠ '-' by decide),
    ne_of_numeric numeric (show Char.isDigit 'f' = false ∧ 'f' ≠ '-' by decide),
    ne_of_numeric numeric (show Char.isDigit 'n' = false ∧ 'n' ≠ '-' by decide)]

theorem items_last {fuel : Nat} {cs rest : List Char} {d : Doc} (depth : Nat)
    (read : value fuel cs = (d, some ((newline depth).toList ++ ']' :: rest))) :
    items (fuel + 1) cs = ([d], some rest) := by
  have closing : skipSpace (']' :: rest) = ']' :: rest := rfl
  rw [items, read]
  simp only [skipSpace_newline, closing]

theorem items_comma {fuel : Nat} {cs more rest : List Char} {d : Doc} {ds : List Doc}
    (first : value fuel cs = (d, some (',' :: more))) (others : items fuel more = (ds, some rest)) :
    items (fuel + 1) cs = (d :: ds, some rest) := by
  have comma : skipSpace (',' :: more) = ',' :: more := rfl
  rw [items, first]
  simp only [comma, others]

theorem value_blank (fuel : Nat) (cs : List Char) : value fuel (' ' :: cs) = value fuel cs := by
  rw [← value_skipSpace fuel cs, ← value_skipSpace fuel (' ' :: cs)]
  rfl

theorem fields_last {fuel : Nat} {cs rest : List Char} {d : Doc} (depth depth' : Nat) (s : String)
    (read : value fuel cs = (d, some ((newline depth').toList ++ '\x7d' :: rest))) :
    fields (fuel + 1) ((newline depth).toList ++ ((quote s).toList ++ (':' :: ' ' :: cs))) =
      ([(.name s, d)], some rest) := by
  have opening : ∀ cs, skipSpace ('"' :: cs) = '"' :: cs := fun _ => rfl
  have colon : ∀ cs, skipSpace (':' :: cs) = ':' :: cs := fun _ => rfl
  have closing : skipSpace ('\x7d' :: rest) = '\x7d' :: rest := rfl
  rw [fields, skipSpace_newline, quote_toList]
  simp only [List.cons_append, List.append_assoc, List.nil_append, opening, string?_quote, colon,
    value_blank, read, skipSpace_newline, closing]

theorem fields_comma {fuel : Nat} {cs more rest : List Char} {d : Doc} {fs : List (Key × Doc)}
    (depth : Nat) (s : String) (first : value fuel cs = (d, some (',' :: more)))
    (others : fields fuel more = (fs, some rest)) :
    fields (fuel + 1) ((newline depth).toList ++ ((quote s).toList ++ (':' :: ' ' :: cs))) =
      ((.name s, d) :: fs, some rest) := by
  have opening : ∀ cs, skipSpace ('"' :: cs) = '"' :: cs := fun _ => rfl
  have colon : ∀ cs, skipSpace (':' :: cs) = ':' :: cs := fun _ => rfl
  have comma : skipSpace (',' :: more) = ',' :: more := rfl
  rw [fields, skipSpace_newline, quote_toList]
  simp only [List.cons_append, List.append_assoc, List.nil_append, opening, string?_quote, colon,
    value_blank, first, comma, others]

theorem length_newline_pos (depth : Nat) : 0 < (newline depth).toList.length := by
  rw [newline, String.toList_ofList]
  exact Nat.succ_pos _

mutual

/-- A written document is read back, whatever follows it. The fuel never runs out, for it is at
least the length of what is written. -/
theorem value_prettyAt (levels : Nat) (d : Doc) (plain : d.Plain levels) (depth fuel : Nat)
    (enough : (prettyAt depth d).toList.length ≤ fuel + 1) {rest : List Char}
    (ends : EndsNumber rest) :
    value (fuel + 1) ((prettyAt depth d).toList ++ rest) = (d, some rest) := by
  match d, plain, enough with
  | .null, _, _ => simp [prettyAt, value, skipSpace, isSpace, literal]
  | .bool true, _, _ => simp [prettyAt, value, skipSpace, isSpace, literal]
  | .bool false, _, _ => simp [prettyAt, value, skipSpace, isSpace, literal]
  | .int n, fits, _ => exact value_toString fits fuel ends
  | .text s, _, _ => exact value_quote fuel s rest
  | .list [], _, _ => simp [prettyAt, value, skipSpace, isSpace]
  | .list (d :: ds), plain, enough =>
    rw [toList_prettyAt_list] at enough ⊢
    have shorter : (prettyItems (depth + 1) (d :: ds)).toList.length ≤ fuel := by
      simp only [List.length_cons, List.length_append] at enough
      omega
    have inner :=
      items_prettyItems (levels - 1) (d :: ds) plain.2 nofun (depth + 1) depth fuel shorter rest
    have opens := opens_prettyItems plain.2.1 ds (depth + 1) ((newline depth).toList ++ ']' :: rest)
    simp only [List.cons_append, List.append_assoc, List.nil_append]
    rw [value_bracket fuel opens, inner]
  | .record [], _, _ => simp [prettyAt, value, skipSpace, isSpace]
  | .record (f :: fs), plain, enough =>
    rw [toList_prettyAt_record] at enough ⊢
    have shorter : (prettyFields (depth + 1) (f :: fs)).toList.length ≤ fuel := by
      simp only [List.length_cons, List.length_append] at enough
      omega
    have inner :=
      fields_prettyFields (levels - 1) (f :: fs) plain.2 nofun (depth + 1) depth fuel shorter rest
    obtain ⟨-, ⟨s, named⟩, -⟩ := plain
    obtain ⟨key, d⟩ := f
    cases named
    have opens := opens_prettyFields s d fs (depth + 1) ((newline depth).toList ++ '\x7d' :: rest)
    simp only [List.cons_append, List.append_assoc, List.nil_append]
    rw [value_brace fuel opens, inner]

/-- The items of a list, the last one followed by a new line and the closing bracket. -/
theorem items_prettyItems (levels : Nat) (ds : List Doc) (plain : PlainItems levels ds) (any : ds ≠ [])
    (depth depth' fuel : Nat) (enough : (prettyItems depth ds).toList.length ≤ fuel)
    (rest : List Char) :
    items fuel ((prettyItems depth ds).toList ++ ((newline depth').toList ++ ']' :: rest)) =
      (ds, some rest) := by
  have line := length_newline_pos depth
  match ds, plain, any, enough with
  | [d], plain, _, enough =>
    have some := (opens_prettyAt plain.1 depth).length_pos
    rw [toList_prettyItems_one, List.length_append] at enough
    obtain ⟨fuel, rfl⟩ : ∃ n, fuel = n + 2 := ⟨fuel - 2, by omega⟩
    rw [toList_prettyItems_one, List.append_assoc]
    refine items_last depth' ?_
    rw [value_newline]
    exact value_prettyAt levels d plain.1 depth fuel (by omega) (endsNumber_newline depth' _)
  | d :: d' :: ds, plain, _, enough =>
    have some := (opens_prettyAt plain.1 depth).length_pos
    rw [toList_prettyItems_cons, List.length_append, List.length_append, List.length_cons] at enough
    obtain ⟨fuel, rfl⟩ : ∃ n, fuel = n + 2 := ⟨fuel - 2, by omega⟩
    have others :=
      items_prettyItems levels (d' :: ds) plain.2 nofun depth depth' (fuel + 1) (by omega) rest
    simp only [toList_prettyItems_cons, List.append_assoc, List.cons_append]
    refine items_comma ?_ others
    rw [value_newline]
    exact value_prettyAt levels d plain.1 depth fuel (by omega) (.inl rfl)

/-- The fields of a record, the last one followed by a new line and the closing brace. -/
theorem fields_prettyFields (levels : Nat) (fs : List (Key × Doc)) (plain : PlainFields levels fs)
    (any : fs ≠ []) (depth depth' fuel : Nat) (enough : (prettyFields depth fs).toList.length ≤ fuel)
    (rest : List Char) :
    fields fuel ((prettyFields depth fs).toList ++ ((newline depth').toList ++ '\x7d' :: rest)) =
      (fs, some rest) := by
  have line := length_newline_pos depth
  match fs, plain, any, enough with
  | [(.name s, d)], plain, _, enough =>
    have some := (opens_prettyAt plain.2.1 depth).length_pos
    rw [toList_prettyFields_one, List.length_append, List.length_append, List.length_cons,
      List.length_cons] at enough
    obtain ⟨fuel, rfl⟩ : ∃ n, fuel = n + 2 := ⟨fuel - 2, by omega⟩
    simp only [toList_prettyFields_one, List.append_assoc, List.cons_append]
    refine fields_last depth depth' s ?_
    exact value_prettyAt levels d plain.2.1 depth fuel (by omega) (endsNumber_newline depth' _)
  | (.name s, d) :: f :: fs, plain, _, enough =>
    have some := (opens_prettyAt plain.2.1 depth).length_pos
    rw [toList_prettyFields_cons, List.length_append, List.length_append, List.length_cons,
      List.length_cons, List.length_append, List.length_cons] at enough
    obtain ⟨fuel, rfl⟩ : ∃ n, fuel = n + 2 := ⟨fuel - 2, by omega⟩
    have others :=
      fields_prettyFields levels (f :: fs) plain.2.2 nofun depth depth' (fuel + 1) (by omega) rest
    simp only [toList_prettyFields_cons, List.append_assoc, List.cons_append]
    refine fields_comma depth s ?_ others
    exact value_prettyAt levels d plain.2.1 depth fuel (by omega) (.inl rfl)

end

/-- The written form for readers is read back as the document that was written. -/
theorem read_pretty {levels : Nat} {d : Doc} (plain : d.Plain levels) :
    Json.read d.pretty = ⟨d, true⟩ := by
  have length : d.pretty.length = (prettyAt 0 d).toList.length := String.length_toList.symm
  have whole : value (2 * d.pretty.length + 1 + 1) ((prettyAt 0 d).toList ++ []) = (d, some []) :=
    value_prettyAt levels d plain 0 _ (by omega) trivial
  rw [List.append_nil] at whole
  have same : value (2 * d.pretty.length + 2) d.pretty.toList = (d, some []) := whole
  rw [Json.read, same]
  rfl

end Json

end DesiredState
