import DesiredState.Dict
import DesiredState.Doc.Basic

/-!
# Merge patches

A document that is held in memory has its fields in order.  A change to such a document may come as a
document itself: what somebody did to a hosted resource behind the back of the program is put that way.

Contents:

* `Doc.canonical`: fields in code-point order of their names, the last of equal names kept.
* `Doc.mergePatch`: records merge field by field, null removes a field, all else replaces.
-/

namespace DesiredState.Doc

def keyName : Key → String
  | .name s => s
  | .index n => toString n
  | .foreign => ""

/-- Fields in order of their names, the last of equal names kept. -/
def sortFields (fields : List (Key × Doc)) : List (Key × Doc) :=
  (Dict.ofList (fields.map fun f => (keyName f.1, f.2))).entries.map fun e => (.name e.1, e.2)

mutual

/-- The document with the fields of all its records in order. -/
def canonical : Doc → Doc
  | .list items => .list (canonicalItems items)
  | .record fields => .record (sortFields (canonicalFields fields))
  | d => d

def canonicalItems : List Doc → List Doc
  | [] => []
  | d :: rest => canonical d :: canonicalItems rest

/-- The fields of a record, each value in order. -/
def canonicalFields : List (Key × Doc) → List (Key × Doc)
  | [] => []
  | (k, d) :: rest => (k, canonical d) :: canonicalFields rest

end

/-- The fields of a record; every other document has none. -/
def fieldsOf : Doc → List (Key × Doc)
  | .record fields => fields
  | _ => []

/-- The value of the first field of that name. -/
def field? (d : Doc) (name : String) : Option Doc :=
  (d.fieldsOf.find? fun f => f.1 = .name name).map Prod.snd

def dropField (key : Key) (fields : List (Key × Doc)) : List (Key × Doc) :=
  fields.filter fun f => f.1 ≠ key

mutual

def merge (target : Doc) : Doc → Doc
  | .record patch => .record (mergeFields target.fieldsOf patch)
  | d => d

/-- The fields of a target after the fields of a patch, one by one. -/
def mergeFields (target : List (Key × Doc)) : List (Key × Doc) → List (Key × Doc)
  | [] => target
  | (k, .null) :: rest => mergeFields (dropField k target) rest
  | (k, d) :: rest =>
    let old := ((target.find? fun f => f.1 = k).map Prod.snd).getD .null
    mergeFields (dropField k target ++ [(k, merge old d)]) rest

end

/-- The target after a patch, its fields in order. -/
def mergePatch (target patch : Doc) : Doc :=
  (merge target patch).canonical

end DesiredState.Doc
