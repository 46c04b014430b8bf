import DesiredState.Yaml.Node
import DesiredState.Yaml.Plain

/-!
# Values of nodes

The document that a node stands for: aliases are replaced by what they refer to, and scalars by
their meanings.

Nodes may be nested in 128 levels. Aliases may be followed a hundred times as often as the text has
steps, so that few short lines cannot stand for a huge document.

Contents:

* `Aliases`: the anchors, and how often an alias may still be followed.
* `resolve`: the node itself, or what it refers to.
* `nodeDoc`: the value of a node.
* `verbatim`: the spelling of a scalar.
* `recordOf`, `listOfNodes`: collections whose parts are read in ways of their own.
-/

namespace DesiredState.Yaml

/-- A step of a walk through a document: it counts how often an alias may still be followed. -/
abbrev Walk (α : Type) := ReaderT Anchors (StateM Nat) α

def maxDepth : Nat := 128

def Document.allowance (d : Document) : Nat := 100 * (d.root.map Node.size).getD 1

def Document.walk (d : Document) (w : Walk α) : α := ((w.run d.anchors).run d.allowance).1

def resolve : Node → Walk Node
  | .alias number => do
    match ← get with
    | 0 => pure .cut
    | left + 1 =>
      set left
      pure (((← read).node? number).getD .cut)
  | n => pure n

def cutDoc : Doc := .fault .malformed

def faultyEntry (f : Fault) : Key × Doc := (.name "", .fault f)

def keyOf : Doc → Except Fault Key
  | .text s => .ok (.name s)
  | .int n => .ok (if 0 ≤ n then .index n.toNat else .foreign)
  | d => match d.firstFault with
    | some f => .error f
    | none => .ok .foreign

/-- An entry with the value of its key; `value` is made only if the key can be read. -/
def entryDoc (key : Doc) (value : Key → Walk Doc) : Walk (Key × Doc) :=
  match keyOf key with
  | .ok k => do pure (k, ← value k)
  | .error f => pure (faultyEntry f)

/-- The value of a node, nested in at most this many levels. -/
def nodeDoc : Nat → Node → Walk Doc
  | 0, n => do
    match ← resolve n with
    | .scalar tag plain text => pure (scalarDoc tag plain text)
    | _ => pure cutDoc
  | depth + 1, n => do
    match ← resolve n with
    | .scalar tag plain text => pure (scalarDoc tag plain text)
    | .list tag items =>
      if isLocalTag tag then pure cutDoc
      else
        let ds ← items.mapM (nodeDoc depth)
        pure (.list ds)
    | .record tag entries =>
      if isLocalTag tag then pure cutDoc
      else
        let fs ← entries.mapM fun e => do entryDoc (← nodeDoc depth e.1) fun _ => nodeDoc depth e.2
        pure (.record fs)
    | _ => pure cutDoc

/-! ## Parts read in ways of their own -/

def verbatim (n : Node) : Walk Doc := do
  match ← resolve n with
  | .scalar _ _ text => pure (.text text)
  | .cut => pure cutDoc
  | _ => pure (.fault .invalidType)

def ignored (n : Node) : Walk Doc := pure (if n.isCut then cutDoc else .null)

/-- The key of an entry by its spelling, and the entry. -/
def spelledEntry (value : String → Node → Walk Doc) (e : Node × Node) : Walk (Key × Doc) := do
  match ← verbatim e.1 with
  | .text name => pure (.name name, ← value name e.2)
  | .fault .malformed => pure (faultyEntry .malformed)
  | _ => pure (.foreign, .null)

/-- A record whose values are read by their keys; nothing at all is a record without entries. -/
def recordOf (value : String → Node → Walk Doc) (n : Node) : Walk Doc := do
  match ← resolve n with
  | .record _ entries => pure (.record (← entries.mapM (spelledEntry value)))
  | .scalar _ true "" => pure (.record [])
  | .cut => pure cutDoc
  | _ => pure (.fault .invalidType)

/-- A list whose items are read in one way; nothing at all is a list without items. -/
def listOfNodes (item : Node → Walk Doc) (n : Node) : Walk Doc := do
  match ← resolve n with
  | .list _ items => pure (.list (← items.mapM item))
  | .scalar _ true "" => pure (.list [])
  | .cut => pure cutDoc
  | _ => pure (.fault .invalidType)

end DesiredState.Yaml
