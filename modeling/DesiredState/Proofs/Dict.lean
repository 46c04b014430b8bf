import DesiredState.Dict

/-!
# More look-ups in dictionaries

What a look-up finds after a dictionary was overwritten by another one or lost some keys, and what
it says about keys and values.  Dictionaries whose look-ups show the same show the same entries.
-/

namespace DesiredState.Dict

variable {α : Type}

@[simp] theorem get?_insert_self (d : Dict α) (key : String) (value : α) :
    (d.insert key value).get? key = some value := by
  simp [get?_insert]

theorem get?_insert_of_ne (d : Dict α) {key k : String} (value : α) (ne : k ≠ key) :
    (d.insert key value).get? k = d.get? k := by
  simp [get?_insert, ne]

@[simp] theorem insert_insert (d : Dict α) (key : String) (value value' : α) :
    (d.insert key value).insert key value' = d.insert key value' :=
  ext_get? fun k => by by_cases same : k = key <;> simp [get?_insert, same]

theorem insert_of_get? {d : Dict α} {key : String} {value : α} (found : d.get? key = some value) :
    d.insert key value = d :=
  ext_get? fun k => by by_cases same : k = key <;> simp [get?_insert, same, found]

theorem contains_iff {d : Dict α} {key : String} :
    d.contains key = true ↔ ∃ value, d.get? key = some value :=
  Option.isSome_iff_exists

theorem contains_eq_false_iff {d : Dict α} {key : String} :
    d.contains key = false ↔ d.get? key = none := by
  simp [contains]

theorem isEmpty_iff {d : Dict α} : d.isEmpty = true ↔ d = empty := by
  constructor
  · intro none
    obtain ⟨entries, sorted⟩ := d
    obtain rfl : entries = [] := List.isEmpty_iff.mp none
    rfl
  · rintro rfl
    rfl

theorem mem_keys_iff {d : Dict α} {key : String} : key ∈ d.keys ↔ d.contains key = true := by
  rw [contains_iff, keys, List.mem_map]
  constructor
  · rintro ⟨⟨key, value⟩, member, rfl⟩
    exact ⟨value, get?_eq_some_iff.mpr member⟩
  · rintro ⟨value, found⟩
    exact ⟨(key, value), get?_eq_some_iff.mp found, rfl⟩

theorem sorted_keys (d : Dict α) : d.keys.Pairwise (· < ·) :=
  List.pairwise_map.mpr d.sorted

theorem mem_values_iff {d : Dict α} {value : α} :
    value ∈ d.values ↔ ∃ key, d.get? key = some value := by
  rw [values, List.mem_map]
  constructor
  · rintro ⟨⟨key, value⟩, member, rfl⟩
    exact ⟨key, get?_eq_some_iff.mpr member⟩
  · rintro ⟨key, found⟩
    exact ⟨(key, value), get?_eq_some_iff.mp found, rfl⟩

/-! ## Overwriting and erasing -/

theorem lookup_eq_none_of_head {e : String × α} {rest : List (String × α)}
    (sorted : (e :: rest).Pairwise fun a b => a.1 < b.1) : lookup e.1 rest = none := by
  cases found : lookup e.1 rest with
  | none => rfl
  | some value =>
    have below := (List.pairwise_cons.mp sorted).1 _ (mem_of_lookup_eq_some found)
    exact absurd below (String.lt_irrefl _)

theorem get?_foldl_insert {es : List (String × α)} (sorted : es.Pairwise fun a b => a.1 < b.1)
    (d : Dict α) (key : String) :
    (es.foldl (fun d e => d.insert e.1 e.2) d).get? key = (lookup key es).or (d.get? key) := by
  induction es generalizing d with
  | nil => rfl
  | cons e rest inductionHypothesis =>
    rw [List.foldl_cons, inductionHypothesis (List.pairwise_cons.mp sorted).2, get?_insert, lookup]
    -- Keys do not repeat, so no later entry overwrites the one of `e`.
    by_cases same : key = e.1
    · rw [if_pos same, if_pos same, same, lookup_eq_none_of_head sorted]
      rfl
    · rw [if_neg same, if_neg same]

theorem ofList_entries (d : Dict α) : ofList d.entries = d :=
  ext_get? fun key => by
    rw [ofList, get?_foldl_insert d.sorted, get?_empty, Option.or_none]
    rfl

/-- After overwriting, the second dictionary answers where it can. -/
theorem get?_overwrite (d other : Dict α) (key : String) :
    (d.overwrite other).get? key = (other.get? key).or (d.get? key) :=
  get?_foldl_insert other.sorted d key

/-- Erased keys are not found, and no other look-up changes. -/
theorem get?_eraseAll (d : Dict α) (erased : List String) (key : String) :
    (d.eraseAll erased).get? key = if key ∈ erased then none else d.get? key := by
  induction erased generalizing d with
  | nil => simp [eraseAll]
  | cons first rest inductionHypothesis =>
    have step : d.eraseAll (first :: rest) = (d.erase first).eraseAll rest := rfl
    rw [step, inductionHypothesis, get?_erase]
    by_cases same : key = first <;> simp [same]

theorem erase_of_get?_none {d : Dict α} {key : String} (absent : d.get? key = none) :
    d.erase key = d :=
  ext_get? fun k => by by_cases same : k = key <;> simp [get?_erase, same, absent]

@[simp] theorem overwrite_empty (d : Dict α) : d.overwrite empty = d := rfl

@[simp] theorem eraseAll_nil (d : Dict α) : d.eraseAll [] = d := rfl

/-! ## Look-ups that agree -/

/-- Dictionaries in which the values under each key show the same, if anything stands there, show
the same from the first entry to the last. -/
theorem map_entries_congr {β γ : Type} {d : Dict α} {e : Dict β} {f : α → γ} {g : β → γ}
    (same : ∀ key, (d.get? key).map f = (e.get? key).map g) :
    d.entries.map (fun x => (x.1, f x.2)) = e.entries.map fun x => (x.1, g x.2) := by
  have shown {δ : Type} (m : Dict δ) (h : δ → γ) (x : String × γ) :
      x ∈ m.entries.map (fun y => (y.1, h y.2)) ↔ (m.get? x.1).map h = some x.2 := by
    simp only [List.mem_map, Option.map_eq_some_iff, get?_eq_some_iff]
    constructor
    · rintro ⟨y, member, rfl⟩
      exact ⟨y.2, member, rfl⟩
    · rintro ⟨value, member, shown⟩
      exact ⟨(x.1, value), member, Prod.ext rfl shown⟩
  refine entries_eq_of_mem_iff (List.pairwise_map.mpr d.sorted) (List.pairwise_map.mpr e.sorted)
    fun x => ?_
  rw [shown d f, shown e g, same]

end DesiredState.Dict
