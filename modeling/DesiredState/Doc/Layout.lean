import DesiredState.Doc.Form

/-!
# Layouts of structures

A layout says which fields of a record a structure is written to and read from. It is built like
the structure itself: the constructor applied to one column for each field.

A record is judged from its first entry to its last: the first entry that is wrong is reported,
and only when all are right the first field that is missing, in the order of the columns.

Contents:

* `Ranked`: a result whose error knows its place.
* `Source`, `Layout`: the entries of a record, and the columns of a structure.
* `Layout.required`, `Layout.nullable`, `Layout.optional`, `Layout.defaulted`,
  `Layout.unlessEmpty`, `Layout.unwritten`: the columns.
* `Layout.record`: the form of a structure.
* `Layout.flattened`: the form of a structure whose record also holds a second one.
-/

namespace DesiredState

/-- A result, or a fault and the place of the entry that has it. -/
abbrev Ranked (α : Type) := Except (Nat × Fault) α

/-- Both results; of two faults the one in the earlier place. -/
def Ranked.both (f : Ranked (α → β)) (a : Ranked α) : Ranked β :=
  match f, a with
  | .ok f, .ok a => .ok (f a)
  | .error e, .ok _ => .error e
  | .ok _, .error e => .error e
  | .error e, .error e' => .error (if e'.1 < e.1 then e' else e)

/-- The entries that a structure is read from; items of a list stand for fields by their place. -/
structure Source where
  entries : List (Key × Doc)
  byPlace : Bool

/-- The places and values of the entries of one name. -/
def Source.places (s : Source) (name : String) : List (Nat × Doc) :=
  s.entries.zipIdx.filterMap fun (e, i) => if e.1 = .name name then some (i, e.2) else none

/-- What the lack of an entry means. -/
inductive Absence (α : Type)
  | refused
  | stands (value : α)
  | standsInRecord (value : α)

/-- The columns of a structure: what of `σ` is written, and what `α` is read. -/
structure Layout (σ α : Type) where
  names : List String
  write : σ → List (String × Doc)
  read : Source → Ranked α

namespace Layout

variable {σ τ α β : Type}

/-! ## Composition -/

instance : Functor (Layout σ) where
  map f l := ⟨l.names, l.write, fun s => (l.read s).map f⟩

instance : Seq (Layout σ) where
  seq f a :=
    let a := a ()
    ⟨f.names ++ a.names, fun x => f.write x ++ a.write x, fun s => Ranked.both (f.read s) (a.read s)⟩

/-- The same columns of a structure that holds the first one. -/
def within (get : τ → σ) (l : Layout σ α) : Layout τ α :=
  ⟨l.names, fun x => l.write (get x), l.read⟩

/-! ## Columns -/

/-- Reads a field; a second entry of its name is a fault in its own place. -/
def readColumn (name : String) (f : Form α) (absence : Absence α) (s : Source) : Ranked α :=
  match s.places name with
  | [] =>
    match absence, s.byPlace with
    | .stands a, _ => .ok a
    | .standsInRecord a, false => .ok a
    | .refused, false => .error (s.entries.length, .missingField name)
    | _, true => .error (s.entries.length, .malformed)
  | (i, d) :: rest =>
    match f.read d, rest with
    | .error e, _ => .error (i, e)
    | .ok a, [] => .ok a
    | .ok _, (j, _) :: _ => .error (j, .duplicateField name)

/-- A field that is always written and must be there. -/
def required (name : String) (get : σ → α) (f : Form α) : Layout σ α where
  names := [name]
  write x := [(name, f.write (get x))]
  read := readColumn name f .refused

/-- A field written as null when there is no value. -/
def nullable (name : String) (get : σ → Option α) (f : Form α) : Layout σ (Option α) where
  names := [name]
  write x := [(name, f.optional.write (get x))]
  read := readColumn name f.optional (.standsInRecord none)

/-- A field that is left out when there is no value. -/
def optional (name : String) (get : σ → Option α) (f : Form α) : Layout σ (Option α) where
  names := [name]
  write x := match get x with
    | some a => [(name, f.write a)]
    | none => []
  read := readColumn name f.optional (.stands none)

/-- A field that is always written and has a value when it is not there. -/
def defaulted (name : String) (get : σ → α) (f : Form α) (value : α) : Layout σ α where
  names := [name]
  write x := [(name, f.write (get x))]
  read := readColumn name f (.stands value)

/-- A field that is left out when it is empty. -/
def unlessEmpty (name : String) (get : σ → α) (f : Form α) (isEmpty : α → Bool) (value : α) :
    Layout σ α where
  names := [name]
  write x := if isEmpty (get x) then [] else [(name, f.write (get x))]
  read := readColumn name f (.stands value)

/-- A text that is left out when it is empty. -/
def unlessEmptyText (name : String) (get : σ → String) : Layout σ String :=
  unlessEmpty name get Form.text String.isEmpty ""

def unwritten (name : String) (f : Form α) (value : α) : Layout σ α where
  names := [name]
  write _ := []
  read := readColumn name f (.stands value)

/-! ## Records -/

/-- The first entry that names none of the fields and cannot be passed over: its key is no name, or
its value breaks off. -/
def readStrays (names : List String) (entries : List (Key × Doc)) : Ranked Unit :=
  let faults := entries.zipIdx.filterMap fun (e, i) =>
    match e.1 with
    | .foreign => some (i, Fault.invalidType)
    | .index _ => e.2.firstFault.map fun f => (i, f)
    | .name n => if n ∈ names then none else e.2.firstFault.map fun f => (i, f)
  match faults with
  | [] => .ok ()
  | e :: _ => .error e

/-- The number of a field stands for its name. -/
def resolveIndex (names : List String) : Key → Key
  | .index n => match names[n]? with
    | some name => .name name
    | none => .index n
  | k => k

def readRecord (l : Layout σ α) (entries : List (Key × Doc)) : Ranked α :=
  Ranked.both ((readStrays l.names entries).map fun _ a => a) (l.read ⟨entries, false⟩)

/-- Reads a structure from a list with its fields in order. -/
def readList (l : Layout σ α) (items : List Doc) : Ranked α := do
  let named := (l.names.zip items).map fun (n, d) => (Key.name n, d)
  let a ← l.read ⟨named, true⟩
  if l.names.length < items.length then .error (l.names.length, .malformed) else .ok a

def record (l : Layout α α) : Form α where
  write a := .object (l.write a)
  read
    | .record entries =>
      (l.readRecord (entries.map fun e => (resolveIndex l.names e.1, e.2))).mapError Prod.snd
    | .list items => (l.readList items).mapError Prod.snd
    | .fault f => .error f
    | _ => .error .invalidType

/-- Two structures side by side in one record; the second is read from what the first leaves. -/
def flattened (own : Layout σ (β → α)) (shared : Layout β β) (d : Doc) : Except Fault α :=
  match d with
  | .record entries => do
    let a ← (own.readRecord entries).mapError Prod.snd
    let b ← (shared.read ⟨entries, false⟩).mapError Prod.snd
    .ok (a b)
  | .fault f => .error f
  | _ => .error .invalidType

end Layout

end DesiredState
