/-!
# Dictionaries

Finite maps from texts to values, kept in ascending order of their keys, so that equal maps are
equal values and every walk over a map goes in code-point order.

Contents:

* `Dict`: the type, its order being part of it.
* `get?`, `contains`, `insert`, `erase`, `ofList`, `keys`, `values`, `filter`, `merge`.
* `get?_insert`, `get?_erase`, `get?_filter`: what a look-up finds after each operation.
* `Dict.ext_get?`: maps that answer every look-up alike are equal.
-/

namespace DesiredState

/-- A finite map with its entries in ascending order of the keys. -/
structure Dict (α : Type) where
  entries : List (String × α)
  sorted : entries.Pairwise fun a b => a.1 < b.1
  deriving DecidableEq

namespace Dict

variable {α β : Type}

/-! ## Operations -/

def empty : Dict α := ⟨[], .nil⟩

instance : EmptyCollection (Dict α) := ⟨empty⟩

instance : Inhabited (Dict α) := ⟨empty⟩

/-- The value of the first entry under a key. -/
def lookup (key : String) : List (String × α) → Option α
  | [] => none
  | e :: rest => if key = e.1 then some e.2 else lookup key rest

def get? (d : Dict α) (key : String) : Option α :=
  lookup key d.entries

def contains (d : Dict α) (key : String) : Bool :=
  (d.get? key).isSome

def keys (d : Dict α) : List String := d.entries.map Prod.fst

def values (d : Dict α) : List α := d.entries.map Prod.snd

def size (d : Dict α) : Nat := d.entries.length

def isEmpty (d : Dict α) : Bool := d.entries.isEmpty

/-- Puts an entry into its place; an entry under the same key gives way. -/
def insertEntry (key : String) (value : α) : List (String × α) → List (String × α)
  | [] => [(key, value)]
  | e :: rest =>
    if key < e.1 then (key, value) :: e :: rest
    else if key = e.1 then (key, value) :: rest
    else e :: insertEntry key value rest

theorem key_of_mem_insertEntry {key : String} {value : α} {es : List (String × α)}
    {e : String × α} (h : e ∈ insertEntry key value es) : e = (key, value) ∨ e ∈ es := by
  induction es with
  | nil => simpa [insertEntry] using h
  | cons a rest ih =>
    simp only [insertEntry] at h
    split at h
    · simpa using h
    · split at h
      · rcases List.mem_cons.mp h with h | h
        · exact .inl h
        · exact .inr (List.mem_cons_of_mem _ h)
      · rcases List.mem_cons.mp h with h | h
        · exact .inr (h ▸ List.mem_cons_self)
        · rcases ih h with h | h
          · exact .inl h
          · exact .inr (List.mem_cons_of_mem _ h)

/-- Of two different texts that are not in order the other way round is in order. -/
theorem lt_of_not_lt_of_ne {a b : String} (h : ¬ a < b) (hne : a ≠ b) : b < a := by
  rcases Decidable.em (b < a) with h' | h'
  · exact h'
  · exact absurd (String.le_antisymm (String.not_lt.mp h') (String.not_lt.mp h)) hne

theorem sorted_insertEntry (key : String) (value : α) {es : List (String × α)}
    (h : es.Pairwise fun a b => a.1 < b.1) :
    (insertEntry key value es).Pairwise fun a b => a.1 < b.1 := by
  induction es with
  | nil => exact List.pairwise_singleton _ _
  | cons a rest ih =>
    have hr := (List.pairwise_cons.mp h).2
    have ha := (List.pairwise_cons.mp h).1
    simp only [insertEntry]
    split
    next hlt =>
      refine List.pairwise_cons.mpr ⟨fun b hb => ?_, h⟩
      rcases List.mem_cons.mp hb with hb | hb
      · exact hb ▸ hlt
      · exact String.lt_trans hlt (ha b hb)
    next hlt =>
      split
      next heq => exact List.pairwise_cons.mpr ⟨fun b hb => heq ▸ ha b hb, hr⟩
      next hne =>
        refine List.pairwise_cons.mpr ⟨fun b hb => ?_, ih hr⟩
        rcases key_of_mem_insertEntry hb with hb | hb
        · exact hb ▸ lt_of_not_lt_of_ne hlt hne
        · exact ha b hb

/-- The map with a value under a key, whatever was there before. -/
def insert (d : Dict α) (key : String) (value : α) : Dict α :=
  ⟨insertEntry key value d.entries, sorted_insertEntry key value d.sorted⟩

def filter (d : Dict α) (p : String → α → Bool) : Dict α :=
  ⟨d.entries.filter fun e => p e.1 e.2, d.sorted.filter _⟩

def erase (d : Dict α) (key : String) : Dict α :=
  d.filter fun k _ => k ≠ key

/-- The map of a list of entries; of two values under one key the later one stays. -/
def ofList (es : List (String × α)) : Dict α :=
  es.foldl (fun d e => d.insert e.1 e.2) empty

/-- The entries of the first map, overwritten by those of the second. -/
def overwrite (d other : Dict α) : Dict α :=
  other.entries.foldl (fun d e => d.insert e.1 e.2) d

def eraseAll (d : Dict α) (keys : List String) : Dict α :=
  keys.foldl (fun d k => d.erase k) d

/-- The first value, in ascending order of the keys, that satisfies a condition. -/
def findValue? (d : Dict α) (p : α → Bool) : Option α :=
  d.values.find? p

/-! ## Look-ups -/

theorem get?_empty (key : String) : (empty : Dict α).get? key = none := rfl

theorem lookup_insertEntry (key : String) (value : α) (es : List (String × α)) (k : String) :
    lookup k (insertEntry key value es) = if k = key then some value else lookup k es := by
  induction es with
  | nil => simp [insertEntry, lookup]
  | cons a rest ih =>
    simp only [insertEntry]
    split
    next hlt => simp [lookup]
    next hlt =>
      split
      next heq => by_cases hk : k = a.1 <;> simp [lookup, hk, heq]
      next hne =>
        by_cases ha : k = a.1
        · have : k ≠ key := fun hk => hne (hk ▸ ha)
          simp [lookup, ha, ha ▸ this]
        · simp [lookup, ha, ih]

/-- An inserted value is found under its key and changes no other look-up. -/
theorem get?_insert (d : Dict α) (key : String) (value : α) (k : String) :
    (d.insert key value).get? k = if k = key then some value else d.get? k :=
  lookup_insertEntry key value d.entries k

theorem mem_of_lookup_eq_some {es : List (String × α)} {key : String} {value : α}
    (h : lookup key es = some value) : (key, value) ∈ es := by
  induction es with
  | nil => simp [lookup] at h
  | cons a rest ih =>
    simp only [lookup] at h
    split at h
    next hk => exact List.mem_cons.mpr (.inl (Prod.ext hk (Option.some.inj h).symm))
    next hk => exact List.mem_cons_of_mem _ (ih h)

theorem lookup_eq_some_of_mem {es : List (String × α)}
    (h : es.Pairwise fun a b => a.1 < b.1) {key : String} {value : α}
    (hm : (key, value) ∈ es) : lookup key es = some value := by
  induction es with
  | nil => simp at hm
  | cons a rest ih =>
    have ha := (List.pairwise_cons.mp h).1
    rcases List.mem_cons.mp hm with hm | hm
    · simp [lookup, ← hm]
    · have hne : key ≠ a.1 := fun he => String.lt_irrefl _ (he ▸ ha _ hm)
      simp [lookup, hne, ih (List.pairwise_cons.mp h).2 hm]

/-- A value is found exactly when it stands among the entries under that key. -/
theorem get?_eq_some_iff {d : Dict α} {key : String} {value : α} :
    d.get? key = some value ↔ (key, value) ∈ d.entries :=
  ⟨mem_of_lookup_eq_some, lookup_eq_some_of_mem d.sorted⟩

/-- A look-up in a filtered map finds what satisfies the condition. -/
theorem get?_filter (d : Dict α) (p : String → α → Bool) (key : String) :
    (d.filter p).get? key = (d.get? key).filter (p key) := by
  cases hd : d.get? key with
  | none =>
    cases hf : (d.filter p).get? key with
    | none => rfl
    | some v =>
      have := (List.mem_filter.mp (get?_eq_some_iff.mp hf)).1
      rw [get?_eq_some_iff.mpr this] at hd
      cases hd
  | some v =>
    have hm := get?_eq_some_iff.mp hd
    by_cases hp : p key v = true
    · rw [get?_eq_some_iff.mpr (List.mem_filter.mpr ⟨hm, hp⟩)]
      simp [Option.filter, hp]
    · cases hf : (d.filter p).get? key with
      | none => simp [Option.filter, hp]
      | some w =>
        have hw := List.mem_filter.mp (get?_eq_some_iff.mp hf)
        rw [get?_eq_some_iff.mpr hw.1, Option.some.injEq] at hd
        exact absurd (hd ▸ hw.2) hp

/-- An erased key is not found, and no other look-up changes. -/
theorem get?_erase (d : Dict α) (key k : String) :
    (d.erase key).get? k = if k = key then none else d.get? k := by
  rw [erase, get?_filter]
  by_cases hk : k = key
  · cases h : d.get? k <;> simp [hk, Option.filter]
  · cases h : d.get? k <;> simp [hk, Option.filter]

theorem head_le_of_mem {es : List (String × α)} {a : String × α}
    (h : (a :: es).Pairwise fun a b => a.1 < b.1) {b : String × α} (hb : b ∈ a :: es) :
    a.1 ≤ b.1 := by
  rcases List.mem_cons.mp hb with hb | hb
  · exact hb ▸ String.le_refl _
  · exact String.not_lt.mp (String.lt_asymm ((List.pairwise_cons.mp h).1 b hb))

theorem entries_eq_of_mem_iff {es fs : List (String × α)}
    (he : es.Pairwise fun a b => a.1 < b.1) (hf : fs.Pairwise fun a b => a.1 < b.1)
    (h : ∀ e, e ∈ es ↔ e ∈ fs) : es = fs := by
  induction es generalizing fs with
  | nil =>
    cases fs with
    | nil => rfl
    | cons b _ => exact absurd ((h b).mpr List.mem_cons_self) List.not_mem_nil
  | cons a es ih =>
    cases fs with
    | nil => exact absurd ((h a).mp List.mem_cons_self) List.not_mem_nil
    | cons b fs =>
      have hab : a.1 = b.1 := String.le_antisymm
        (head_le_of_mem he ((h b).mpr List.mem_cons_self))
        (head_le_of_mem hf ((h a).mp List.mem_cons_self))
      have hbe : b = a := by
        rcases List.mem_cons.mp ((h b).mpr List.mem_cons_self) with hb | hb
        · exact hb
        · exact absurd (hab ▸ (List.pairwise_cons.mp he).1 b hb) (String.lt_irrefl _)
      subst hbe
      refine congrArg _ (ih (List.pairwise_cons.mp he).2 (List.pairwise_cons.mp hf).2 fun e => ?_)
      constructor
      · intro hm
        rcases List.mem_cons.mp ((h e).mp (List.mem_cons_of_mem _ hm)) with hm' | hm'
        · exact absurd (hm' ▸ (List.pairwise_cons.mp he).1 e hm) (String.lt_irrefl _)
        · exact hm'
      · intro hm
        rcases List.mem_cons.mp ((h e).mpr (List.mem_cons_of_mem _ hm)) with hm' | hm'
        · exact absurd (hm' ▸ (List.pairwise_cons.mp hf).1 e hm) (String.lt_irrefl _)
        · exact hm'

/-- Maps that answer every look-up alike are equal. -/
theorem ext_get? {d e : Dict α} (h : ∀ key, d.get? key = e.get? key) : d = e := by
  have hm : d.entries = e.entries := entries_eq_of_mem_iff d.sorted e.sorted fun x => by
    rw [← @get?_eq_some_iff _ d x.1 x.2, ← @get?_eq_some_iff _ e x.1 x.2, h]
  cases d
  cases e
  simp only at hm
  subst hm
  rfl

end Dict

/-- Free-form labels of a resource: keys are unique and their order is immaterial. -/
abbrev Tags := Dict String

end DesiredState
