import DesiredState.Dict
import DesiredState.Doc.Basic
import DesiredState.Time.Instant

/-!
# Forms of values

How a value stands in a document, and how it is read from one: one definition holds both
directions.

Contents:

* `Form`: writing and reading of one type.
* `Form.text`, `Form.flag`, `Form.word16`, `Form.word32`, `Form.word64`, `Form.instant`: leaves.
* `Form.choice`: an enumeration written as the names of its values.
* `Form.optional`, `Form.listOf`, `Form.dictOf`: values built from others.
* `Form.upTo`: values whose documents are not nested too deeply.
-/

namespace DesiredState

/-- How values of a type are written into documents and read from them. -/
structure Form (α : Type) where
  write : α → Doc
  read : Doc → Except Fault α

namespace Form

/-! ## Leaves -/

def text : Form String where
  write := .text
  read
    | .text s => .ok s
    | .fault f => .error f
    | _ => .error .invalidType

def flag : Form Bool where
  write := .bool
  read
    | .bool b => .ok b
    | .fault f => .error f
    | _ => .error .invalidType

def readNatural (bound : Nat) : Doc → Except Fault Nat
  | .int n => if 0 ≤ n && n < bound then .ok n.toNat else .error .invalidValue
  | .fault f => .error f
  | _ => .error .invalidType

def word16 : Form UInt16 where
  write n := .int n.toNat
  read d := (readNatural 65536 d).map UInt16.ofNat

def word32 : Form UInt32 where
  write n := .int n.toNat
  read d := (readNatural 4294967296 d).map UInt32.ofNat

def word64 : Form UInt64 where
  write n := .int n.toNat
  read d := (readNatural 18446744073709551616 d).map UInt64.ofNat

/-- A point in time, written in UTC; a text that is none is malformed. -/
def instant : Form Instant where
  write t := .text t.wire
  read
    | .text s => match Instant.parse? s with
      | some t => .ok t
      | none => .error .malformed
    | .fault f => .error f
    | _ => .error .invalidType

/-! ## Enumerations -/

def named (label : α → String) (values : List α) (name : String) : Except Fault α :=
  match values.find? fun a => label a == name with
  | some a => .ok a
  | none => .error (.unknownVariant name)

/-- One of several values, written as its name; a record of that one name without a payload is
read too. -/
def choice (label : α → String) (values : List α) : Form α where
  write a := .text (label a)
  read
    | .text s => named label values s
    | .record [(.name s, payload)] => do
      let a ← named label values s
      match payload with
      | .null => .ok a
      | .fault f => .error f
      | _ => .error .invalidType
    | .record [(_, _)] => .error .invalidType
    | .record fields => .error ((Doc.firstFaultOfFields fields).getD .invalidValue)
    | .fault f => .error f
    | _ => .error .invalidType

/-! ## Values built from others -/

/-- A value or none; none is written as null. -/
def optional (f : Form α) : Form (Option α) where
  write
    | some a => f.write a
    | none => .null
  read
    | .null => .ok none
    | d => (f.read d).map some

/-- Reads the items of a list up to the first that is none. -/
def readItems (f : Form α) : List Doc → Except Fault (List α)
  | [] => .ok []
  | d :: rest => do
    let a ← f.read d
    let as ← readItems f rest
    .ok (a :: as)

def listOf (f : Form α) : Form (List α) where
  write as := .list (as.map f.write)
  read
    | .list items => readItems f items
    | .fault f => .error f
    | _ => .error .invalidType

/-- Reads the entries of a map up to the first that is none. -/
def readEntries (f : Form α) : List (Key × Doc) → Except Fault (List (String × α))
  | [] => .ok []
  | (.name k, d) :: rest => do
    let a ← f.read d
    let as ← readEntries f rest
    .ok ((k, a) :: as)
  | (_, _) :: _ => .error .invalidType

/-- A map; of two values under one key the later one counts. -/
def dictOf (f : Form α) : Form (Dict α) where
  write d := .object (d.entries.map fun e => (e.1, f.write e.2))
  read
    | .record fields => (readEntries f fields).map Dict.ofList
    | .fault f => .error f
    | _ => .error .invalidType

def tags : Form Tags := dictOf text

/-- The same form for those who walk through a document before they read it, and refuse one that is
nested in more than a number of levels. -/
def upTo (levels : Nat) (f : Form α) : Form α where
  write := f.write
  read d := f.read (d.cut levels)

end Form

end DesiredState
