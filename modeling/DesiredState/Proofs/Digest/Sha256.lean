import DesiredState.Digest.Sha256

/-!
# Digests as texts

A digest is written with 64 digits, all of them decimal digits or lower-case letters, and the digits
tell the digest; and what is digested can be taken apart again if a zero byte separates its parts.

Contents:

* `Sha256.length_digestHex`, `Sha256.isHex_of_mem_digestHex` — the digits of a digest.
* `Sha256.digestHex_eq_iff`, `Sha256.Collides` — digests that are equal.
* `Sha256.utf8_injective`, `Sha256.zero_not_mem_utf8` — texts as bytes.
* `Sha256.append_zero_inj`, `Sha256.flatMap_append_zero_inj` — several of them in a row.
-/

namespace DesiredState.Sha256

/-! ## Digits -/

/-- A digit of a digest. -/
def IsHex (c : Char) : Prop := c.isDigit = true ∨ c.isLower = true ∧ c ≤ 'f'

theorem isHex_hexDigit {n : Nat} (small : n < 16) : IsHex (hexDigit n) := by
  have all : ∀ i : Fin 16, (hexDigit i).isDigit = true ∨
      (hexDigit i).isLower = true ∧ hexDigit i ≤ 'f' := by decide
  exact all ⟨n, small⟩

theorem isHex_of_mem_hexOfByte {b : UInt8} {c : Char} (member : c ∈ hexOfByte b) : IsHex c := by
  have bound := b.toNat_lt
  simp only [hexOfByte, List.mem_cons, List.not_mem_nil, or_false] at member
  rcases member with rfl | rfl
  · exact isHex_hexDigit (by omega)
  · exact isHex_hexDigit (by omega)

theorem isHex_of_mem_digestHex {message : List UInt8} {c : Char}
    (member : c ∈ (digestHex message).toList) : IsHex c := by
  rw [digestHex, hexString, String.toList_ofList, List.mem_flatMap] at member
  obtain ⟨b, -, member⟩ := member
  exact isHex_of_mem_hexOfByte member

theorem length_digestHex (message : List UInt8) : (digestHex message).toList.length = 64 := by
  have pairs (bs : List UInt8) : (bs.flatMap hexOfByte).length = 2 * bs.length := by
    induction bs with
    | nil => rfl
    | cons b bs inductionHypothesis =>
      rw [List.flatMap_cons, List.length_append, inductionHypothesis, List.length_cons, hexOfByte]
      simp only [List.length_cons, List.length_nil]
      omega
  rw [digestHex, hexString, String.toList_ofList, pairs, length_digest]

theorem hexDigit_inj {n n' : Nat} (small : n < 16) (small' : n' < 16)
    (same : hexDigit n = hexDigit n') : n = n' := by
  have all : ∀ i j : Fin 16, hexDigit i = hexDigit j → i = j := by decide
  exact congrArg Fin.val (all ⟨n, small⟩ ⟨n', small'⟩ same)

theorem hexOfByte_inj {b b' : UInt8} (same : hexOfByte b = hexOfByte b') : b = b' := by
  have bound := b.toNat_lt
  have bound' := b'.toNat_lt
  simp only [hexOfByte, List.cons.injEq, and_true] at same
  have high := hexDigit_inj (by omega) (by omega) same.1
  have low := hexDigit_inj (by omega) (by omega) same.2
  exact UInt8.toNat_inj.mp (by omega)

theorem flatMap_hexOfByte_inj {bs bs' : List UInt8}
    (same : bs.flatMap hexOfByte = bs'.flatMap hexOfByte) : bs = bs' := by
  induction bs generalizing bs' with
  | nil => cases bs' <;> simp_all [hexOfByte]
  | cons b bs inductionHypothesis =>
    cases bs' with
    | nil => simp [hexOfByte] at same
    | cons b' bs' =>
      simp only [List.flatMap_cons] at same
      obtain ⟨first, rest⟩ := List.append_inj same rfl
      rw [hexOfByte_inj first, inductionHypothesis rest]

/-- Nothing is lost when a digest is written with digits. -/
theorem digestHex_eq_iff {message message' : List UInt8} :
    digestHex message = digestHex message' ↔ digest message = digest message' := by
  refine ⟨fun same => flatMap_hexOfByte_inj ?_, fun same => by rw [digestHex, same, digestHex]⟩
  exact String.ofList_injective same

/-- Two messages that are told apart by no digest. -/
def Collides (message message' : List UInt8) : Prop :=
  message ≠ message' ∧ digest message = digest message'

theorem digestHex_eq_iff_of_not_collides {message message' : List UInt8}
    (apart : ¬Collides message message') :
    digestHex message = digestHex message' ↔ message = message' := by
  rw [digestHex_eq_iff]
  exact ⟨fun same => Decidable.byContradiction fun differ => apart ⟨differ, same⟩, congrArg digest⟩

/-! ## Bytes -/

theorem utf8_injective {s t : String} (same : utf8 s = utf8 t) : s = t := by
  have bytes : s.toUTF8 = t.toUTF8 := by
    apply ByteArray.ext
    exact Array.toList_inj.mp same
  exact String.toByteArray_inj.mp bytes

/-- Only the zero character has a zero byte: in longer encodings every byte has its highest bit set. -/
theorem eq_zero_of_zero_mem {c : Char} (member : 0 ∈ String.utf8EncodeChar c) : c = '\x00' := by
  have zero : c.val.toNat = 0 := by
    unfold String.utf8EncodeChar at member
    dsimp only at member
    repeat' split at member
    all_goals
      simp only [List.mem_cons, List.not_mem_nil, or_false, ← UInt8.toNat_inj, UInt8.toNat_ofNat',
        UInt8.toNat_zero] at member
      omega
  exact Char.ext (UInt32.toNat_inj.mp zero)

theorem zero_not_mem_utf8 {s : String} (pure : '\x00' ∉ s.toList) : 0 ∉ utf8 s := by
  have bytes : s.toUTF8 = (s.toList.flatMap String.utf8EncodeChar).toByteArray :=
    congrArg String.toByteArray s.ofList_toList.symm
  rw [utf8, bytes, List.toList_data_toByteArray, List.mem_flatMap]
  rintro ⟨c, member, zero⟩
  exact pure (eq_zero_of_zero_mem zero ▸ member)

/-- The first zero byte tells where the first part ends. -/
theorem append_zero_inj {front front' back back' : List UInt8} (pure : 0 ∉ front)
    (pure' : 0 ∉ front') (same : front ++ 0 :: back = front' ++ 0 :: back') :
    front = front' ∧ back = back' := by
  rcases List.append_eq_append_iff.mp same with ⟨more, rfl, rest⟩ | ⟨more, rfl, rest⟩
  -- Of two first parts that differ one goes on with the zero byte that ends the other one.
  · cases more with
    | nil => simpa using rest
    | cons b more =>
      obtain ⟨rfl, -⟩ := List.cons.inj rest
      simp at pure'
  · cases more with
    | nil => simpa [eq_comm] using rest
    | cons b more =>
      obtain ⟨rfl, -⟩ := List.cons.inj rest
      simp at pure

/-- Parts can be taken apart again if each of them is followed by a zero byte. -/
theorem flatMap_append_zero_inj {parts parts' : List (List UInt8)} (pure : ∀ part ∈ parts, 0 ∉ part)
    (pure' : ∀ part ∈ parts', 0 ∉ part)
    (same : parts.flatMap (· ++ [0]) = parts'.flatMap (· ++ [0])) : parts = parts' := by
  induction parts generalizing parts' with
  | nil => cases parts' <;> simp_all
  | cons part parts inductionHypothesis =>
    cases parts' with
    | nil => simp at same
    | cons part' parts' =>
      rw [List.forall_mem_cons] at pure pure'
      simp only [List.flatMap_cons, List.append_assoc, List.singleton_append] at same
      obtain ⟨first, rest⟩ := append_zero_inj pure.1 pure'.1 same
      rw [first, inductionHypothesis pure.2 pure'.2 rest]

end DesiredState.Sha256
