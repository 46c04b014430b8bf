import DesiredState.Doc.Layout
import DesiredState.Proofs.Dict
import DesiredState.Proofs.Doc.Json
import DesiredState.Proofs.Time.Instant

/-!
# Forms that return what was written

A form returns its values when the document of a value is read back as that value, up to what the
form leaves out.  Forms are built from others, and a layout from its columns, so there is one rule
for each way of building.

Contents:

* `Form.Returns`, `Form.Lossless` — the property, and the case in which nothing is left out.
* `Form.Returns.text` to `Form.Returns.listOf` — the forms.
* `Layout.Returns` — the property of a layout, within any record that holds its fields.
* `Layout.Returns.map`, `Layout.Returns.seq`, and the columns.
* `Layout.Returns.record`, `Layout.Returns.flattened` — structures.
-/

namespace DesiredState

/-! ## Documents without faults -/

namespace Doc

mutual

theorem firstFault_of_plain {levels : Nat} (d : Doc) (plain : d.Plain levels) : d.firstFault = none :=
  match d, plain with
  | .null, _ => rfl
  | .bool _, _ => rfl
  | .int _, _ => rfl
  | .text _, _ => rfl
  | .list items, plain => firstFaultOfItems_of_plain items plain.2
  | .record fields, plain => firstFaultOfFields_of_plain fields plain.2

theorem firstFaultOfItems_of_plain {levels : Nat} (ds : List Doc) (plain : PlainItems levels ds) :
    firstFaultOfItems ds = none :=
  match ds, plain with
  | [], _ => rfl
  | d :: rest, ⟨first, others⟩ => by
    rw [firstFaultOfItems, firstFault_of_plain d first, firstFaultOfItems_of_plain rest others]
    rfl

theorem firstFaultOfFields_of_plain {levels : Nat} (fs : List (Key × Doc))
    (plain : PlainFields levels fs) :
    firstFaultOfFields fs = none :=
  match fs, plain with
  | [], _ => rfl
  | (_, d) :: rest, ⟨_, first, others⟩ => by
    rw [firstFaultOfFields, firstFault_of_plain d first, firstFaultOfFields_of_plain rest others]
    rfl

end

mutual

/-- Nothing is cut off from a document that is nested less deeply. -/
theorem cut_of_plain {levels most : Nat} (d : Doc) (plain : d.Plain levels) (enough : levels ≤ most) :
    d.cut most = d :=
  match d, plain with
  | .null, _ => rfl
  | .bool _, _ => rfl
  | .int _, _ => rfl
  | .text _, _ => rfl
  | .list items, ⟨any, plain⟩ => by
    rw [cut, if_neg (by omega), cutItems_of_plain items plain (by omega)]
  | .record fields, ⟨any, plain⟩ => by
    rw [cut, if_neg (by omega), cutFields_of_plain fields plain (by omega)]

theorem cutItems_of_plain {levels most : Nat} (ds : List Doc) (plain : PlainItems levels ds)
    (enough : levels ≤ most) : cutItems most ds = ds :=
  match ds, plain with
  | [], _ => rfl
  | d :: rest, ⟨first, others⟩ => by
    rw [cutItems, cut_of_plain d first enough, cutItems_of_plain rest others enough]

theorem cutFields_of_plain {levels most : Nat} (fs : List (Key × Doc))
    (plain : PlainFields levels fs) (enough : levels ≤ most) : cutFields most fs = fs :=
  match fs, plain with
  | [], _ => rfl
  | (_, d) :: rest, ⟨_, first, others⟩ => by
    rw [cutFields, cut_of_plain d first enough, cutFields_of_plain rest others enough]

end

theorem plainItems_iff {levels : Nat} {ds : List Doc} :
    PlainItems levels ds ↔ ∀ d ∈ ds, d.Plain levels := by
  induction ds with
  | nil => simp [PlainItems]
  | cons d rest inductionHypothesis => simp [PlainItems, inductionHypothesis]

/-- Named fields are plain when their values are. -/
theorem plain_object {levels : Nat} {fields : List (String × Doc)}
    (plain : ∀ f ∈ fields, f.2.Plain levels) :
    (object fields).Plain (levels + 1) := by
  refine ⟨levels.succ_pos, ?_⟩
  show PlainFields levels (fields.map fun f => (Key.name f.1, f.2))
  induction fields with
  | nil => trivial
  | cons f rest inductionHypothesis =>
    obtain ⟨first, others⟩ := List.forall_mem_cons.mp plain
    exact ⟨⟨f.1, rfl⟩, first, inductionHypothesis others⟩

end Doc

/-! ## Forms -/

variable {α β σ τ : Type} {levels : Nat}

namespace Form

/-- What is written is a plain document other than null, and reading it gives the value again, or
what is kept of it. -/
structure Returns (levels : Nat) (f : Form α) (kept : α → α) : Prop where
  plain : ∀ a, (f.write a).Plain levels
  solid : ∀ a, f.write a ≠ .null
  read_write : ∀ a, f.read (f.write a) = .ok (kept a)

/-- What is written is read back as it was. -/
abbrev Lossless (levels : Nat) (f : Form α) : Prop := f.Returns levels id

namespace Returns

theorem text : text.Lossless levels := ⟨fun _ => trivial, fun _ => nofun, fun _ => rfl⟩

theorem flag : flag.Lossless levels := ⟨fun _ => trivial, fun _ => nofun, fun _ => rfl⟩

theorem readNatural_ofNat {bound n : Nat} (fits : n < bound) :
    readNatural bound (.int n) = .ok n := by
  have range : (0 : Int) ≤ n ∧ (n : Int) < bound := by omega
  simp [readNatural, range]

theorem plain_ofNat {n : Nat} (fits : n < 18446744073709551616) : (Doc.int n).Plain levels := by
  simp only [Doc.Plain]
  omega

theorem word16 : word16.Lossless levels where
  plain n := plain_ofNat (Nat.lt_trans n.toNat_lt (by decide))
  solid _ := nofun
  read_write n := by
    have fits : n.toNat < 65536 := n.toNat_lt
    simp only [Form.word16, readNatural_ofNat fits]
    simp [Except.map]

theorem word32 : word32.Lossless levels where
  plain n := plain_ofNat (Nat.lt_trans n.toNat_lt (by decide))
  solid _ := nofun
  read_write n := by
    have fits : n.toNat < 4294967296 := n.toNat_lt
    simp only [Form.word32, readNatural_ofNat fits]
    simp [Except.map]

theorem word64 : word64.Lossless levels where
  plain n := by
    have fits : n.toNat < 18446744073709551616 := n.toNat_lt
    exact plain_ofNat fits
  solid _ := nofun
  read_write n := by
    have fits : n.toNat < 18446744073709551616 := n.toNat_lt
    simp only [Form.word64, readNatural_ofNat fits]
    simp [Except.map]

theorem instant : instant.Lossless levels where
  plain _ := trivial
  solid _ := nofun
  read_write t := by simp only [Form.instant, Instant.parse?_wire, id_eq]

/-- The names of an enumeration tell its values apart. -/
theorem choice {label : α → String} {values : List α}
    (distinct : ∀ a, named label values (label a) = .ok a) : (choice label values).Lossless levels :=
  ⟨fun _ => trivial, fun _ => nofun, distinct⟩

theorem dictOf {f : Form α} (lossless : f.Lossless levels) :
    (dictOf f).Lossless (levels + 1) where
  plain d := Doc.plain_object fun e member => by
    obtain ⟨e, -, rfl⟩ := List.mem_map.mp member
    exact lossless.plain e.2
  solid _ := nofun
  read_write d := by
    have entries (es : List (String × α)) :
        readEntries f ((es.map fun e => (e.1, f.write e.2)).map fun e => (.name e.1, e.2)) =
          .ok es := by
      induction es with
      | nil => rfl
      | cons e rest inductionHypothesis =>
        simp only [List.map_cons, readEntries, lossless.read_write, inductionHypothesis]
        rfl
    show (readEntries f ((d.entries.map fun e => (e.1, f.write e.2)).map fun e =>
      (.name e.1, e.2))).map Dict.ofList = .ok d
    rw [entries]
    exact congrArg Except.ok d.ofList_entries

theorem tags : tags.Lossless (levels + 1) := dictOf text

theorem listOf {f : Form α} {kept : α → α} (returns : f.Returns levels kept) :
    (listOf f).Returns (levels + 1) (List.map kept) where
  plain as := ⟨levels.succ_pos, Doc.plainItems_iff.mpr fun d member => by
    obtain ⟨a, -, rfl⟩ := List.mem_map.mp member
    exact returns.plain a⟩
  solid _ := nofun
  read_write as := by
    show readItems f (as.map f.write) = .ok (as.map kept)
    induction as with
    | nil => rfl
    | cons a rest inductionHypothesis =>
      simp only [List.map_cons, readItems, returns.read_write, inductionHypothesis]
      rfl

/-- A form returns the values whose documents it does not refuse for their depth. -/
theorem upTo {f : Form α} {kept : α → α} {most : Nat} (returns : f.Returns levels kept)
    (enough : levels ≤ most) : (f.upTo most).Returns levels kept where
  plain := returns.plain
  solid := returns.solid
  read_write a := by
    show f.read ((f.write a).cut most) = _
    rw [Doc.cut_of_plain _ (returns.plain a) enough, returns.read_write]

end Returns

theorem Lossless.listOf {f : Form α} (lossless : f.Lossless levels) :
    (listOf f).Lossless (levels + 1) := by
  have returns := Returns.listOf lossless
  rwa [List.map_id_fun] at returns

/-- A value that is not null is read as a value, even where null could stand. -/
theorem Lossless.read_optional {f : Form α} (lossless : f.Lossless levels) (a : α) :
    f.optional.read (f.write a) = .ok (some a) := by
  have solid := lossless.solid a
  have read := lossless.read_write a
  unfold optional
  generalize f.write a = d at solid read
  cases d <;> first | exact absurd rfl solid | simp [read, Except.map]

end Form

/-! ## Layouts -/

namespace Source

/-- The values under a name. -/
def valuesOf (name : String) (fields : List (String × Doc)) : List Doc :=
  fields.filterMap fun f => if f.1 = name then some f.2 else none

/-- A record that has exactly these values under these names, whatever else it has. -/
def Carries (s : Source) (names : List String) (fields : List (String × Doc)) : Prop :=
  s.byPlace = false ∧ ∀ n ∈ names, (s.places n).map Prod.snd = valuesOf n fields

theorem valuesOf_eq_nil {name : String} {fields : List (String × Doc)}
    (absent : ∀ f ∈ fields, f.1 ≠ name) : valuesOf name fields = [] :=
  List.filterMap_eq_nil_iff.mpr fun f member => if_neg (absent f member)

theorem valuesOf_append_left {name : String} {fs gs : List (String × Doc)}
    (absent : ∀ g ∈ gs, g.1 ≠ name) : valuesOf name (fs ++ gs) = valuesOf name fs := by
  have none := valuesOf_eq_nil absent
  rw [valuesOf] at none ⊢
  rw [List.filterMap_append, none, List.append_nil]
  rfl

theorem valuesOf_append_right {name : String} {fs gs : List (String × Doc)}
    (absent : ∀ f ∈ fs, f.1 ≠ name) : valuesOf name (fs ++ gs) = valuesOf name gs := by
  have none := valuesOf_eq_nil absent
  rw [valuesOf] at none ⊢
  rw [List.filterMap_append, none, List.nil_append]
  rfl

/-- The places of the entries of a record, from any place on. -/
theorem places_object (name : String) (fields : List (String × Doc)) :
    (places ⟨fields.map fun f => (.name f.1, f.2), false⟩ name).map Prod.snd =
      valuesOf name fields := by
  have from_place (n : Nat) :
      (((fields.map fun f => (Key.name f.1, f.2)).zipIdx n).filterMap fun e =>
        if e.1.1 = .name name then some (e.2, e.1.2) else none).map Prod.snd = valuesOf name fields := by
    induction fields generalizing n with
    | nil => rfl
    | cons f rest inductionHypothesis =>
      have others := inductionHypothesis (n + 1)
      rw [valuesOf] at others ⊢
      by_cases same : f.1 = name <;> simpa [List.zipIdx_cons, same] using others
  exact from_place 0

end Source

namespace Layout

open Form (Lossless)
open Source (Carries valuesOf)

/-- The fields that are written have names of the layout and plain values, and a structure is read
back from every record that carries them. -/
structure Returns (levels : Nat) (l : Layout σ α) (kept : σ → α) : Prop where
  named : ∀ x, ∀ f ∈ l.write x, f.1 ∈ l.names
  plain : ∀ x, ∀ f ∈ l.write x, f.2.Plain levels
  read_write : l.names.Nodup → ∀ x s, Carries s l.names (l.write x) → l.read s = .ok (kept x)

namespace Returns

variable {l : Layout σ α} {kept : σ → α}

theorem of_eq {kept' : σ → α} (returns : l.Returns levels kept) (same : ∀ x, kept x = kept' x) :
    l.Returns levels kept' :=
  (funext same : kept = kept') ▸ returns

/-! ### Composition -/

theorem map (f : α → β) (returns : l.Returns levels kept) :
    Returns levels (f <$> l) fun x => f (kept x) where
  named := returns.named
  plain := returns.plain
  read_write distinct x s carries := by
    show (l.read s).map f = .ok (f (kept x))
    rw [returns.read_write distinct x s carries]
    rfl

theorem seq {f : Layout σ (α → β)} {keptF : σ → α → β} (first : f.Returns levels keptF)
    (second : l.Returns levels kept) : Returns levels (f <*> l) fun x => keptF x (kept x) where
  named x e member := by
    rcases List.mem_append.mp member with here | there
    · exact List.mem_append_left _ (first.named x e here)
    · exact List.mem_append_right _ (second.named x e there)
  plain x e member := by
    rcases List.mem_append.mp member with here | there
    · exact first.plain x e here
    · exact second.plain x e there
  read_write distinct x s carries := by
    obtain ⟨distinctF, distinctL, apart⟩ := List.nodup_append.mp distinct
    obtain ⟨record, values⟩ := carries
    have left : Carries s f.names (f.write x) :=
      ⟨record, fun n member => (values n (List.mem_append_left _ member)).trans
        (Source.valuesOf_append_left fun e there same =>
          apart n member e.1 (second.named x e there) same.symm)⟩
    have right : Carries s l.names (l.write x) :=
      ⟨record, fun n member => (values n (List.mem_append_right _ member)).trans
        (Source.valuesOf_append_right fun e there same =>
          apart e.1 (first.named x e there) n member same)⟩
    show Ranked.both (f.read s) (l.read s) = .ok (keptF x (kept x))
    rw [first.read_write distinctF x s left, second.read_write distinctL x s right]
    rfl

theorem within (get : τ → σ) (returns : l.Returns levels kept) :
    Returns levels (l.within get) fun x => kept (get x) where
  named x := returns.named (get x)
  plain x := returns.plain (get x)
  read_write distinct x := returns.read_write distinct (get x)

/-! ### Columns -/

theorem readColumn_present {name : String} {f : Form α} {absence : Absence α} {s : Source} {d : Doc}
    {a : α} (carries : Carries s [name] [(name, d)]) (read : f.read d = .ok a) :
    readColumn name f absence s = .ok a := by
  have values : (s.places name).map Prod.snd = [d] := by
    simpa [valuesOf] using carries.2 name List.mem_cons_self
  obtain ⟨⟨i, d'⟩, place, rfl⟩ := List.map_eq_singleton_iff.mp values
  simp [readColumn, place, read]

theorem readColumn_absent {name : String} {f : Form α} {absence : Absence α} {s : Source} {a : α}
    (carries : Carries s [name] []) (stands : absence = .stands a) :
    readColumn name f absence s = .ok a := by
  have none : s.places name = [] :=
    List.map_eq_nil_iff.mp (carries.2 name List.mem_cons_self)
  simp [readColumn, none, stands]

theorem required {name : String} {get : σ → α} {f : Form α} {keptA : α → α}
    (returns : f.Returns levels keptA) :
    Returns levels (required name get f) fun x => keptA (get x) where
  named x e member := by
    obtain rfl := List.mem_singleton.mp member
    exact List.mem_cons_self
  plain x e member := by
    obtain rfl := List.mem_singleton.mp member
    exact returns.plain (get x)
  read_write _ x s carries := readColumn_present carries (returns.read_write (get x))

theorem defaulted {name : String} {get : σ → α} {f : Form α} {keptA : α → α} {value : α}
    (returns : f.Returns levels keptA) :
    Returns levels (defaulted name get f value) fun x => keptA (get x) where
  named x e member := by
    obtain rfl := List.mem_singleton.mp member
    exact List.mem_cons_self
  plain x e member := by
    obtain rfl := List.mem_singleton.mp member
    exact returns.plain (get x)
  read_write _ x s carries := by
    simp only [Layout.defaulted] at carries ⊢
    exact readColumn_present carries (returns.read_write (get x))

theorem nullable {name : String} {get : σ → Option α} {f : Form α} (lossless : f.Lossless levels) :
    Returns levels (nullable name get f) get where
  named x e member := by
    obtain rfl := List.mem_singleton.mp member
    exact List.mem_cons_self
  plain x e member := by
    obtain rfl := List.mem_singleton.mp member
    unfold Form.optional
    cases get x with
    | none => trivial
    | some a => exact lossless.plain a
  read_write _ x s carries := by
    refine readColumn_present carries ?_
    cases get x with
    | none => rfl
    | some a => exact lossless.read_optional a

theorem optional {name : String} {get : σ → Option α} {f : Form α} (lossless : f.Lossless levels) :
    Returns levels (optional name get f) get where
  named x e member := by
    simp only [Layout.optional] at member ⊢
    cases value : get x with
    | none => simp [value] at member
    | some a => simp_all
  plain x e member := by
    simp only [Layout.optional] at member
    cases value : get x with
    | none => simp [value] at member
    | some a =>
      obtain rfl : e = (name, f.write a) := by simpa [value] using member
      exact lossless.plain a
  read_write _ x s carries := by
    simp only [Layout.optional] at carries ⊢
    cases value : get x with
    | none =>
      rw [value] at carries
      exact readColumn_absent carries rfl
    | some a =>
      rw [value] at carries
      exact readColumn_present carries (lossless.read_optional a)

theorem unlessEmpty {name : String} {get : σ → α} {f : Form α} {isEmpty : α → Bool} {value : α}
    (lossless : f.Lossless levels) (only : ∀ a, isEmpty a = true → a = value) :
    Returns levels (unlessEmpty name get f isEmpty value) get where
  named x e member := by
    simp only [Layout.unlessEmpty] at member ⊢
    split at member <;> simp_all
  plain x e member := by
    simp only [Layout.unlessEmpty] at member
    split at member
    · simp at member
    · obtain rfl := List.mem_singleton.mp member
      exact lossless.plain (get x)
  read_write _ x s carries := by
    simp only [Layout.unlessEmpty] at carries ⊢
    split at carries
    next empty => exact readColumn_absent carries (congrArg _ (only _ empty).symm)
    next => exact readColumn_present carries (lossless.read_write (get x))

theorem unlessEmptyText {name : String} {get : σ → String} :
    Returns levels (unlessEmptyText name get) get :=
  unlessEmpty .text fun _ empty => String.isEmpty_iff.mp empty

theorem unwritten {name : String} {f : Form α} {value : α} :
    Returns levels (unwritten name f value : Layout σ α) fun _ => value where
  named := nofun
  plain := nofun
  read_write _ _ _ carries := readColumn_absent carries rfl

/-! ### Structures -/

theorem readStrays_object {names : List String} {fields : List (String × Doc)}
    (plain : ∀ f ∈ fields, f.2.Plain levels) :
    readStrays names (fields.map fun f => (.name f.1, f.2)) = .ok () := by
  unfold readStrays
  extract_lets faults
  cases same : faults with
  | nil => rfl
  | cons e rest =>
    have first : e ∈ faults := same ▸ List.mem_cons_self
    obtain ⟨⟨entry, i⟩, member, fault⟩ := List.mem_filterMap.mp first
    obtain ⟨f, there, rfl⟩ := List.mem_map.mp (List.fst_mem_of_mem_zipIdx member)
    simp [Doc.firstFault_of_plain f.2 (plain f there)] at fault

/-- A structure is read back from a record of its own fields. -/
theorem read_object (returns : l.Returns levels kept) (distinct : l.names.Nodup) (x : σ)
    {fields : List (String × Doc)} (plain : ∀ f ∈ fields, f.2.Plain levels)
    (own : ∀ n ∈ l.names, valuesOf n fields = valuesOf n (l.write x)) :
    l.read ⟨fields.map fun f => (.name f.1, f.2), false⟩ = .ok (kept x) ∧
      l.readRecord (fields.map fun f => (.name f.1, f.2)) = .ok (kept x) := by
  have carries : Carries ⟨fields.map fun f => (.name f.1, f.2), false⟩ l.names (l.write x) :=
    ⟨rfl, fun n member => (Source.places_object n fields).trans (own n member)⟩
  have read := returns.read_write distinct x _ carries
  refine ⟨read, ?_⟩
  rw [readRecord, readStrays_object plain, read]
  rfl

theorem record {l : Layout α α} {kept : α → α} (returns : l.Returns levels kept)
    (distinct : l.names.Nodup) : l.record.Returns (levels + 1) kept where
  plain a := Doc.plain_object (returns.plain a)
  solid _ := nofun
  read_write a := by
    have read := (returns.read_object distinct a (returns.plain a) fun _ _ => rfl).2
    simp only [Layout.record, Doc.object, List.map_map]
    have resolved : (fun e : Key × Doc => (resolveIndex l.names e.1, e.2)) ∘
        (fun f : String × Doc => (Key.name f.1, f.2)) = fun f => (Key.name f.1, f.2) := rfl
    rw [resolved, read]
    rfl

/-- Of two structures in one record each is read back from its own fields. -/
theorem flattened {own : Layout σ (β → α)} {shared : Layout β β} {keptOwn : σ → β → α}
    {keptShared : β → β} (first : own.Returns levels keptOwn)
    (second : shared.Returns levels keptShared)
    (distinct : (own.names ++ shared.names).Nodup) (x : σ) (b : β) :
    Layout.flattened own shared (.object (own.write x ++ shared.write b)) =
      .ok (keptOwn x (keptShared b)) := by
  obtain ⟨distinctOwn, distinctShared, apart⟩ := List.nodup_append.mp distinct
  have plain : ∀ f ∈ own.write x ++ shared.write b, f.2.Plain levels := fun f member =>
    (List.mem_append.mp member).elim (first.plain x f) (second.plain b f)
  have left : ∀ n ∈ own.names,
      valuesOf n (own.write x ++ shared.write b) = valuesOf n (own.write x) := fun n member =>
    Source.valuesOf_append_left fun e there same =>
      apart n member e.1 (second.named b e there) same.symm
  have right : ∀ n ∈ shared.names,
      valuesOf n (own.write x ++ shared.write b) = valuesOf n (shared.write b) := fun n member =>
    Source.valuesOf_append_right fun e there same =>
      apart e.1 (first.named x e there) n member same
  have readOwn := (first.read_object distinctOwn x plain left).2
  have readShared := (second.read_object distinctShared b plain right).1
  simp only [Layout.flattened, Doc.object, readOwn, readShared]
  rfl

end Returns

end Layout

end DesiredState
