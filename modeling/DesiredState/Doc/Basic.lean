/-!
# Documents

A document is the tree of values that a JSON or YAML text stands for. Reading a text never fails as
a whole: where the text breaks off, the tree holds a fault, and whoever walks the tree up to that
place reports it. What stands before the broken place is judged first.

Contents:

* `Fault`: why a document is no value of the wanted type, and the wording.
* `Key`, `Doc`: record keys and documents.
* `Doc.firstFault`: the first fault on a walk through a document.
* `Doc.cut`: a document that is walked through to a certain depth.
* `Doc.object`: a record with named fields.
-/

namespace DesiredState

/-- Why a document is no value of the wanted type. -/
inductive Fault
  | missingField (name : String)
  | unknownVariant (name : String)
  | duplicateField (name : String)
  | invalidType
  | invalidValue
  | malformed
  deriving DecidableEq

def Fault.message : Fault → String
  | .missingField name => "missing field `" ++ name ++ "`"
  | .unknownVariant name => "unknown variant `" ++ name ++ "`"
  | .duplicateField name => "duplicate field `" ++ name ++ "`"
  | .invalidType => "invalid type"
  | .invalidValue => "invalid value"
  | .malformed => "other"

/-- The key of a record entry: a name, the number of a field, or something that names no field. -/
inductive Key
  | name (s : String)
  | index (n : Nat)
  | foreign
  deriving DecidableEq

/-- A document. Integers fit 64 bits; every other number keeps its spelling. -/
inductive Doc
  | null
  | bool (b : Bool)
  | int (n : Int)
  | real (spelling : String)
  | text (s : String)
  | list (items : List Doc)
  | record (fields : List (Key × Doc))
  | fault (f : Fault)

namespace Doc

instance : Inhabited Doc := ⟨.null⟩

def object (fields : List (String × Doc)) : Doc :=
  .record (fields.map fun f => (.name f.1, f.2))

def texts (xs : List String) : Doc :=
  .list (xs.map .text)

mutual

/-- The first fault that a walk through the document meets. -/
def firstFault : Doc → Option Fault
  | .fault f => some f
  | .list items => firstFaultOfItems items
  | .record fields => firstFaultOfFields fields
  | .null => none
  | .bool _ => none
  | .int _ => none
  | .real _ => none
  | .text _ => none

def firstFaultOfItems : List Doc → Option Fault
  | [] => none
  | d :: rest => (firstFault d).or (firstFaultOfItems rest)

/-- The first fault among the values of a record. -/
def firstFaultOfFields : List (Key × Doc) → Option Fault
  | [] => none
  | (_, d) :: rest => (firstFault d).or (firstFaultOfFields rest)

end

mutual

/-- The document with a fault in the place of all that is nested in more than a number of levels. -/
def cut (levels : Nat) : Doc → Doc
  | .list items => if levels = 0 then .fault .malformed else .list (cutItems (levels - 1) items)
  | .record fields =>
    if levels = 0 then .fault .malformed else .record (cutFields (levels - 1) fields)
  | .null => .null
  | .bool b => .bool b
  | .int n => .int n
  | .real spelling => .real spelling
  | .text s => .text s
  | .fault f => .fault f

def cutItems (levels : Nat) : List Doc → List Doc
  | [] => []
  | d :: rest => cut levels d :: cutItems levels rest

def cutFields (levels : Nat) : List (Key × Doc) → List (Key × Doc)
  | [] => []
  | (k, d) :: rest => (k, cut levels d) :: cutFields levels rest

end

end Doc

end DesiredState
