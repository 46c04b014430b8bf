import DesiredState.Proofs.Digest.Sha256
import DesiredState.Reconcile.DeleteAction
import Mathlib.Data.List.Chain

/-!
# Names of final snapshots

Whatever a snapshot's name is made of, what comes out can be used as one: letters in lower case,
digits and single hyphens, a letter in front.  It ends with digits of a digest, and nothing in front
of these can make two names equal whose digits differ.

Contents:

* `IsPlain` — the characters of a name besides the hyphen.
* `resumed` — a name from some hyphen on, with that hyphen.
* `SnapshotName`, `KeptApart` — a well-formed name, and names of different resources.
* `snapshotId_tied` — every generated name is well-formed and tied to its resource.
-/

namespace DesiredState

/-! ## Characters -/

/-- A letter in lower case, or a digit. -/
def IsPlain (c : Char) : Prop := c.isLower = true ∨ c.isDigit = true

theorem toNat_lt_of_isNameChar {c : Char} (kept : isNameChar c = true) : c.toNat < 128 := by
  unfold isNameChar Char.isAlphanum Char.isAlpha Char.isUpper Char.isLower Char.isDigit at kept
  simp only [Bool.or_eq_true, Bool.and_eq_true, decide_eq_true_eq, UInt32.le_iff_toNat_le] at kept
  obtain (⟨-, most⟩ | ⟨-, most⟩) | ⟨-, most⟩ := kept <;>
    exact Nat.lt_of_le_of_lt most (by decide)

/-- What holds of the first 128 characters holds of all that names keep. -/
theorem of_isNameChar {p : Char → Prop} (first : ∀ n < 128, p (Char.ofNat n)) {c : Char}
    (kept : isNameChar c = true) : p c := by
  have holds := first c.toNat (toNat_lt_of_isNameChar kept)
  rwa [Char.ofNat_toNat] at holds

namespace IsPlain

variable {c : Char} (plain : IsPlain c)
include plain

theorem isNameChar_eq : isNameChar c = true := by
  unfold isNameChar Char.isAlphanum Char.isAlpha
  rcases plain with lower | digit
  · rw [lower, Bool.or_true, Bool.true_or]
  · rw [digit, Bool.or_true]

theorem toLower_eq : c.toLower = c := by
  refine of_isNameChar (p := fun c => IsPlain c → c.toLower = c) ?_ plain.isNameChar_eq plain
  unfold IsPlain
  decide

theorem ne_hyphen : c ≠ '-' := by
  rintro rfl
  simp [IsPlain] at plain

end IsPlain

theorem isPlain_toLower {c : Char} (kept : isNameChar c = true) : IsPlain c.toLower := by
  refine of_isNameChar (p := fun c => isNameChar c = true → IsPlain c.toLower) ?_ kept kept
  unfold IsPlain
  decide

theorem Sha256.IsHex.isPlain {c : Char} (hex : Sha256.IsHex c) : IsPlain c := by
  rcases hex with digit | ⟨lower, -⟩
  · exact .inr digit
  · exact .inl lower

/-! ## Hyphens -/

/-- What is written from some hyphen on, that hyphen included if there is one. -/
def resumed (afterHyphen : Bool) (cs : List Char) : List Char :=
  (if afterHyphen then ['-'] else []) ++ hyphenate afterHyphen cs

theorem resumed_false (cs : List Char) : resumed false cs = hyphenate false cs := rfl

theorem resumed_of_name {c : Char} (kept : isNameChar c = true) (afterHyphen : Bool)
    (cs : List Char) : resumed afterHyphen (c :: cs) =
      (if afterHyphen then ['-'] else []) ++ c.toLower :: resumed false cs := by
  rw [resumed, hyphenate, if_pos kept, resumed_false]

/-- Of several characters in a row that no name holds, the first one becomes a hyphen. -/
theorem resumed_of_other {c : Char} (other : isNameChar c = false) (afterHyphen : Bool)
    (cs : List Char) : resumed afterHyphen (c :: cs) = resumed true cs := by
  cases afterHyphen <;> simp [resumed, hyphenate, other]

theorem plain_or_hyphen_of_mem_resumed {afterHyphen : Bool} {cs : List Char} {x : Char}
    (member : x ∈ resumed afterHyphen cs) : IsPlain x ∨ x = '-' := by
  induction cs generalizing afterHyphen with
  | nil => cases afterHyphen <;> simp_all [resumed, hyphenate]
  | cons c cs inductionHypothesis =>
    cases kept : isNameChar c with
    | true =>
      rw [resumed_of_name kept, List.mem_append, List.mem_cons] at member
      rcases member with hyphen | rfl | rest
      · cases afterHyphen <;> simp_all
      · exact .inl (isPlain_toLower kept)
      · exact inductionHypothesis rest
    | false =>
      rw [resumed_of_other kept] at member
      exact inductionHypothesis member

/-- No hyphen stands behind another one. -/
def Spaced (cs : List Char) : Prop := cs.IsChain fun a b => a ≠ '-' ∨ b ≠ '-'

theorem Spaced.cons {c : Char} {cs : List Char} (spaced : Spaced cs) (plain : c ≠ '-') :
    Spaced (c :: cs) :=
  List.IsChain.cons spaced fun _ _ => .inl plain

theorem Spaced.not_pair {cs : List Char} (spaced : Spaced cs) : ¬ ['-', '-'] <:+: cs := by
  rintro ⟨front, back, rfl⟩
  have split : front ++ ['-', '-'] ++ back = front ++ '-' :: '-' :: back := by simp
  have apart := List.isChain_iff_forall_rel_of_append_cons_cons.mp spaced split
  simp at apart

theorem spaced_resumed (afterHyphen : Bool) (cs : List Char) : Spaced (resumed afterHyphen cs) := by
  -- For both flags at once: the hyphen that a set flag stands for is part of what is spaced, so
  -- nothing has to be known of the text in front.
  induction cs generalizing afterHyphen with
  | nil => cases afterHyphen <;> simp [Spaced, resumed, hyphenate]
  | cons c cs inductionHypothesis =>
    cases kept : isNameChar c with
    | true =>
      have plain := (isPlain_toLower kept).ne_hyphen
      have rest : Spaced (c.toLower :: resumed false cs) := (inductionHypothesis false).cons plain
      rw [resumed_of_name kept]
      cases afterHyphen with
      | false => exact rest
      | true => exact List.IsChain.cons rest fun _ head => .inr (by simp_all)
    | false =>
      rw [resumed_of_other kept]
      exact inductionHypothesis true

theorem hyphenate_of_plain {cs : List Char} (plain : ∀ c ∈ cs, IsPlain c) (afterHyphen : Bool) :
    hyphenate afterHyphen cs = cs := by
  induction cs generalizing afterHyphen with
  | nil => rfl
  | cons c cs inductionHypothesis =>
    have first := plain c List.mem_cons_self
    have rest : ∀ c ∈ cs, IsPlain c := fun c member => plain c (List.mem_cons_of_mem _ member)
    rw [hyphenate, if_pos first.isNameChar_eq, first.toLower_eq, inductionHypothesis rest]

/-- Plain characters behind a separator are kept, with one hyphen in front of them. -/
theorem suffix_resumed {last : List Char} (plain : ∀ c ∈ last, IsPlain c) (afterHyphen : Bool)
    (front : List Char) : '-' :: last <:+ resumed afterHyphen (front ++ '-' :: last) := by
  induction front generalizing afterHyphen with
  | nil =>
    -- The separator is a hyphen itself, and so becomes one, or is the one already written.
    rw [List.nil_append, resumed_of_other (by decide), resumed, hyphenate_of_plain plain]
    exact List.suffix_rfl
  | cons c front inductionHypothesis =>
    rw [List.cons_append]
    cases kept : isNameChar c with
    | true =>
      rw [resumed_of_name kept]
      exact ((inductionHypothesis false).trans (List.suffix_cons ..)).trans (List.suffix_append ..)
    | false =>
      rw [resumed_of_other kept]
      exact inductionHypothesis true

/-! ## The first letter -/

theorem leadWithLetter_cases (cs : List Char) :
    (leadWithLetter cs = cs ∧ ∃ c rest, cs = c :: rest ∧ c.isLower = true) ∨
      leadWithLetter cs = 's' :: cs := by
  cases cs with
  | nil => exact .inr rfl
  | cons c rest =>
    cases lower : c.isLower with
    | true => exact .inl ⟨by rw [leadWithLetter, if_pos lower], c, rest, rfl, lower⟩
    | false =>
      right
      rw [leadWithLetter, lower]
      rfl

theorem leads_leadWithLetter (cs : List Char) :
    ∃ c rest, leadWithLetter cs = c :: rest ∧ c.isLower = true := by
  rcases leadWithLetter_cases cs with ⟨same, leads⟩ | led
  · rwa [same]
  · exact ⟨'s', cs, led, by decide⟩

theorem spaced_leadWithLetter {cs : List Char} (spaced : Spaced cs) : Spaced (leadWithLetter cs) := by
  rcases leadWithLetter_cases cs with ⟨same, -⟩ | led
  · rwa [same]
  · rw [led]
    exact spaced.cons (by decide)

theorem suffix_leadWithLetter (cs : List Char) : cs <:+ leadWithLetter cs := by
  rcases leadWithLetter_cases cs with ⟨same, -⟩ | led
  · exact ⟨[], same.symm⟩
  · exact ⟨['s'], led.symm⟩

theorem plain_or_hyphen_of_mem_leadWithLetter {cs : List Char}
    (all : ∀ x ∈ cs, IsPlain x ∨ x = '-') {x : Char} (member : x ∈ leadWithLetter cs) :
    IsPlain x ∨ x = '-' := by
  rcases leadWithLetter_cases cs with ⟨same, -⟩ | led
  · rw [same] at member
    exact all x member
  · rw [led] at member
    rcases List.mem_cons.mp member with rfl | member
    · exact .inl (.inl (by decide))
    · exact all x member

/-! ## Names -/

/-- A name that a provider takes, and whose end tells the resource. -/
structure SnapshotName (c : DeletionContext) (name : String) : Prop where
  leads : ∃ first rest, name.toList = first :: rest ∧ first.isLower = true
  plain : ∀ x ∈ name.toList, x.isLower = true ∨ x.isDigit = true ∨ x = '-'
  spaced : ¬ ['-', '-'] <:+: name.toList
  tied : '-' :: (Sha256.digestHex (Sha256.utf8 c.kind ++ 0 :: Sha256.utf8 c.identifier)).toList.take 8
    <:+ name.toList
  digits : c.snapshotDigest.length = 8 ∧ ∀ x ∈ c.snapshotDigest, Sha256.IsHex x

/-- The generated names of two resources are told apart by their digests, and what is digested tells
the resources apart. -/
structure KeptApart (c c' : DeletionContext) : Prop where
  names : c.snapshotDigest ≠ c'.snapshotDigest → c.snapshotId ≠ c'.snapshotId
  bytes : 0 ∉ Sha256.utf8 c.kind → 0 ∉ Sha256.utf8 c'.kind →
    (c.snapshotBytes = c'.snapshotBytes ↔ c.kind = c'.kind ∧ c.identifier = c'.identifier)

namespace DeletionContext

variable (c c' : DeletionContext)

theorem length_snapshotDigest : c.snapshotDigest.length = 8 := by
  rw [snapshotDigest, List.length_take, Sha256.length_digestHex]
  rfl

theorem isHex_of_mem_snapshotDigest {x : Char} (member : x ∈ c.snapshotDigest) : Sha256.IsHex x :=
  Sha256.isHex_of_mem_digestHex (List.mem_of_mem_take member)

/-- The text from which a name is made, before its first letter is seen to. -/
def snapshotBody : List Char :=
  resumed false (c.snapshotStem.toList ++ '-' :: (c.naturalKey.toList ++ '-' :: c.snapshotDigest))

theorem toList_snapshotId : c.snapshotId.toList = leadWithLetter c.snapshotBody := by
  rw [snapshotId, String.toList_ofList]
  rfl

theorem suffix_snapshotId : '-' :: c.snapshotDigest <:+ c.snapshotId.toList := by
  have plain : ∀ x ∈ c.snapshotDigest, IsPlain x := fun _ member =>
    (c.isHex_of_mem_snapshotDigest member).isPlain
  have body : '-' :: c.snapshotDigest <:+ c.snapshotBody := by
    have whole := suffix_resumed plain false (c.snapshotStem.toList ++ '-' :: c.naturalKey.toList)
    rwa [List.append_assoc] at whole
  rw [toList_snapshotId]
  exact body.trans (suffix_leadWithLetter _)

theorem snapshotName_snapshotId : SnapshotName c c.snapshotId where
  leads := by
    rw [toList_snapshotId]
    exact leads_leadWithLetter _
  plain x member := by
    rw [toList_snapshotId] at member
    have kept := plain_or_hyphen_of_mem_leadWithLetter
      (fun _ => plain_or_hyphen_of_mem_resumed) member
    exact or_assoc.mp kept
  spaced pair := by
    rw [toList_snapshotId] at pair
    exact (spaced_leadWithLetter (spaced_resumed ..)).not_pair pair
  tied := c.suffix_snapshotId
  digits := ⟨c.length_snapshotDigest, fun _ => c.isHex_of_mem_snapshotDigest⟩

variable {c c'}

theorem snapshotId_ne (digests : c.snapshotDigest ≠ c'.snapshotDigest) :
    c.snapshotId ≠ c'.snapshotId := by
  intro same
  -- Both names are the same text, and both ends have nine characters.
  have ends := c.suffix_snapshotId
  have ends' := c'.suffix_snapshotId
  rw [same] at ends
  have length : ('-' :: c.snapshotDigest).length = ('-' :: c'.snapshotDigest).length := by
    rw [List.length_cons, List.length_cons, length_snapshotDigest, length_snapshotDigest]
  have part := List.suffix_of_suffix_length_le ends ends' length.le
  exact digests (List.cons.inj (part.eq_of_length length)).2

theorem snapshotBytes_inj (pure : 0 ∉ Sha256.utf8 c.kind) (pure' : 0 ∉ Sha256.utf8 c'.kind)
    (same : c.snapshotBytes = c'.snapshotBytes) :
    c.kind = c'.kind ∧ c.identifier = c'.identifier := by
  obtain ⟨kinds, identifiers⟩ := Sha256.append_zero_inj pure pure' same
  exact ⟨Sha256.utf8_injective kinds, Sha256.utf8_injective identifiers⟩

end DeletionContext

/-- Whatever is known of a resource, the name made for its final snapshot is well-formed, and it is
the name of no resource with another digest. -/
theorem snapshotId_tied (c : DeletionContext) :
    SnapshotName c c.snapshotId ∧ ∀ c' : DeletionContext, KeptApart c c' := by
  refine ⟨c.snapshotName_snapshotId, fun c' => ?_⟩
  exact {
    names := DeletionContext.snapshotId_ne
    bytes := by
      intro pure pure'
      constructor
      · exact DeletionContext.snapshotBytes_inj pure pure'
      · rintro ⟨kinds, identifiers⟩
        rw [DeletionContext.snapshotBytes, DeletionContext.snapshotBytes, kinds, identifiers] }

end DesiredState
