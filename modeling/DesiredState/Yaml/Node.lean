import DesiredState.Yaml.Lexer

/-!
# Nodes of YAML

The tree that a YAML text stands for. Where the text breaks off the tree holds a leaf that says so,
and what was complete before stays in it.

Every construct is read by a function of its own, which takes the tokens from its beginning and
gives its node and the state behind it. The functions call each other with fuel, of which each call
takes one unit; a token admits no more than two calls.

Contents:

* `Node`: the tree.
* `Anchors`: the nodes that aliases refer to.
* `node`, `blockItems`, `blockEntries`, `flowItems`, `flowEntries`: the grammar.
* `Document`, `readDocument`: the first document of a text, and whether anything follows it.
-/

namespace DesiredState.Yaml

/-- The tree that a text stands for. Tags are written out; an alias holds the number of its
anchor. -/
inductive Node
  | scalar (tag : Option String) (plain : Bool) (text : String)
  | list (tag : Option String) (items : List Node)
  | record (tag : Option String) (entries : List (Node × Node))
  | alias (anchor : Nat)
  | cut

namespace Node

def blank : Node := .scalar none true ""

instance : Inhabited Node := ⟨blank⟩

mutual

/-- The number of steps of a walk through a node. -/
def size : Node → Nat
  | .list _ items => sizeOfItems items + 2
  | .record _ entries => sizeOfEntries entries + 2
  | .cut => 0
  | .scalar _ _ _ => 1
  | .alias _ => 1

/-- The number of steps of a walk through nodes. -/
def sizeOfItems : List Node → Nat
  | [] => 0
  | n :: rest => size n + sizeOfItems rest

/-- The number of steps of a walk through pairs of nodes. -/
def sizeOfEntries : List (Node × Node) → Nat
  | [] => 0
  | (k, v) :: rest => size k + size v + sizeOfEntries rest

end

mutual

def isCut : Node → Bool
  | .list _ items => isCutItems items
  | .record _ entries => isCutEntries entries
  | .cut => true
  | .scalar _ _ _ => false
  | .alias _ => false

/-- The text breaks off within one of the nodes. -/
def isCutItems : List Node → Bool
  | [] => false
  | n :: rest => isCut n || isCutItems rest

/-- The text breaks off within one of the pairs. -/
def isCutEntries : List (Node × Node) → Bool
  | [] => false
  | (k, v) :: rest => isCut k || isCut v || isCutEntries rest

end

end Node

/-! ## Anchors -/

/-- The names of anchors with their numbers, and the nodes of the anchors by number and by the order
in which they began. -/
structure Anchors where
  names : List (String × Nat)
  begun : Nat
  nodes : List (Nat × Nat × Node)

namespace Anchors

def none : Anchors := ⟨[], 0, []⟩

def number? (a : Anchors) (name : String) : Option Nat :=
  (a.names.find? fun e => e.1 = name).map Prod.snd

/-- Meets an anchor: its number is that of the names met so far, and a repeated name counts once. -/
def meet (a : Anchors) (name : String) : Anchors :=
  { a with
    names := (name, a.names.length) :: a.names.filter fun e => e.1 ≠ name
    begun := a.begun + 1 }

/-- The node of an anchor that was met as the one of this order. -/
def finish (a : Anchors) (number order : Nat) (n : Node) : Anchors :=
  { a with nodes := (number, order, n) :: a.nodes }

def later (best : Option (Nat × Node)) (e : Nat × Node) : Option (Nat × Node) :=
  match best with
  | some b => if b.1 < e.1 then some e else some b
  | Option.none => some e

/-- The node of a number; of several the one that began last. -/
def node? (a : Anchors) (number : Nat) : Option Node :=
  ((a.nodes.filterMap fun e => if e.1 = number then some e.2 else Option.none).foldl later
    Option.none).map Prod.snd

end Anchors

/-! ## Input -/

/-- What is left to read: the tokens, the handles in force, and the anchors met. Where the text
breaks off no token is left, not even the one that ends a text. -/
structure Input where
  tokens : List Token
  handles : List (String × String)
  anchors : Anchors

abbrev Reading (α : Type) := StateM Input α

namespace Reading

def peek? : Reading (Option Token) := do
  let i ← get
  pure i.tokens.head?

def drop : Reading Unit :=
  modify fun i => { i with tokens := i.tokens.drop 1 }

def breakOff (value : α) : Reading α := do
  modify fun i => { i with tokens := [] }
  pure value

def sees (ts : List Token) : Reading Bool := do
  let t ← peek?
  pure (t.any fun t => t ∈ ts)

end Reading

/-! ## What stands before a node -/

/-- An anchor, by its number and its order, and a tag. -/
structure Properties where
  anchor : Option (Nat × Nat)
  tag : Option (String × String)

def anchor? : Reading (Option (Nat × Nat)) := do
  match ← Reading.peek? with
  | some (.anchor name) =>
    Reading.drop
    let i ← get
    set { i with anchors := i.anchors.meet name }
    pure (some (i.anchors.names.length, i.anchors.begun))
  | _ => pure none

def tagPair? : Reading (Option (String × String)) := do
  match ← Reading.peek? with
  | some (.tag handle suffix) =>
    Reading.drop
    pure (some (handle, suffix))
  | _ => pure none

def properties : Reading Properties := do
  match ← anchor? with
  | some a => pure ⟨some a, ← tagPair?⟩
  | none =>
    match ← tagPair? with
    | some t => pure ⟨← anchor?, some t⟩
    | none => pure ⟨none, none⟩

/-- The tag with its handle written out; nothing if the handle is not in force. -/
def fullTag? (handles : List (String × String)) : Option (String × String) → Option (Option String)
  | none => some none
  | some (handle, suffix) =>
    if handle.isEmpty then some (some suffix)
    else (handles.find? fun h => h.1 = handle).map fun h => some (h.2 ++ suffix)

def anchored (p : Properties) (n : Node) : Reading Node := do
  match p.anchor with
  | some (number, order) =>
    modify fun i => { i with anchors := i.anchors.finish number order n }
  | none => pure ()
  pure n

/-- The tag of a scalar; the mark alone says nothing about it. -/
def scalarTag (tag : Option String) : Option String := tag.filter (· ≠ "!")

/-! ## The grammar -/

mutual

/-- A node. `block` admits block collections, `loose` also a list in the column of its record. -/
def node (block loose : Bool) : Nat → Reading Node
  | 0 => Reading.breakOff .cut
  | fuel + 1 => do
    match ← Reading.peek? with
    | some (.alias name) =>
      match (← get).anchors.number? name with
      | some number =>
        Reading.drop
        pure (.alias number)
      | none => Reading.breakOff .cut
    | _ =>
      let p ← properties
      match fullTag? (← get).handles p.tag with
      | none => Reading.breakOff .cut
      | some tag => do
        let n ← content block loose (p.anchor.isSome || tag.isSome) tag fuel
        anchored p n

/-- A node without what stands before it; `named` admits that there is nothing else. -/
def content (block loose named : Bool) (tag : Option String) : Nat → Reading Node
  | 0 => Reading.breakOff .cut
  | fuel + 1 => do
    match ← Reading.peek? with
    | none => pure .cut
    | some (.scalar plain text) =>
      Reading.drop
      pure (.scalar (scalarTag tag) plain text)
    | some .listOpen =>
      Reading.drop
      pure (.list tag (← flowItems true fuel))
    | some .recordOpen =>
      Reading.drop
      pure (.record tag (← flowEntries true fuel))
    | some t =>
      if loose && t = .item then pure (.list tag (← looseItems fuel))
      else if block && t = .blockList then
        Reading.drop
        pure (.list tag (← blockItems fuel))
      else if block && t = .blockRecord then
        Reading.drop
        pure (.record tag (← blockEntries fuel))
      else if named then pure (.scalar tag true "")
      else Reading.breakOff .cut

/-- A node, or a blank one before some tokens. -/
def nodeUnless (stops : List Token) (block loose : Bool) : Nat → Reading Node
  | 0 => Reading.breakOff .cut
  | fuel + 1 => do
    if ← Reading.sees stops then pure .blank else node block loose fuel

/-- The value of an entry; a blank one if no colon stands here. -/
def valueUnless (stops : List Token) (block : Bool) : Nat → Reading Node
  | 0 => Reading.breakOff .cut
  | fuel + 1 => do
    match ← Reading.peek? with
    | none => pure .cut
    | some .value =>
      Reading.drop
      nodeUnless stops block block fuel
    | some _ => pure .blank

/-- The items of a block list up to its end. -/
def blockItems : Nat → Reading (List Node)
  | 0 => Reading.breakOff [.cut]
  | fuel + 1 => do
    match ← Reading.peek? with
    | some .item =>
      Reading.drop
      let n ← nodeUnless [.item, .blockEnd] true false fuel
      pure (n :: (← blockItems fuel))
    | some .blockEnd =>
      Reading.drop
      pure []
    | _ => Reading.breakOff [.cut]

/-- The items of a list in the column of its record. -/
def looseItems : Nat → Reading (List Node)
  | 0 => Reading.breakOff [.cut]
  | fuel + 1 => do
    match ← Reading.peek? with
    | none => pure [.cut]
    | some .item =>
      Reading.drop
      let n ← nodeUnless [.item, .key, .value, .blockEnd] true false fuel
      pure (n :: (← looseItems fuel))
    | some _ => pure []

/-- The entries of a block record up to its end. -/
def blockEntries : Nat → Reading (List (Node × Node))
  | 0 => Reading.breakOff [(.cut, .cut)]
  | fuel + 1 => do
    match ← Reading.peek? with
    | some .key =>
      Reading.drop
      let k ← nodeUnless [.key, .value, .blockEnd] true true fuel
      let v ← valueUnless [.key, .value, .blockEnd] true fuel
      pure ((k, v) :: (← blockEntries fuel))
    | some .blockEnd =>
      Reading.drop
      pure []
    | _ => Reading.breakOff [(.cut, .cut)]

/-- The items of a flow list up to its bracket. -/
def flowItems (first : Bool) : Nat → Reading (List Node)
  | 0 => Reading.breakOff [.cut]
  | fuel + 1 => do
    if ← Reading.sees [.listClose] then
      Reading.drop
      pure []
    else if !first && !(← Reading.sees [.comma]) then Reading.breakOff [.cut]
    else
      if !first then Reading.drop
      match ← Reading.peek? with
      | none => pure [.cut]
      | some .listClose =>
        Reading.drop
        pure []
      | some .key =>
        Reading.drop
        let n ← pair fuel
        pure (n :: (← flowItems false fuel))
      | some _ =>
        let n ← node false false fuel
        pure (n :: (← flowItems false fuel))

def pair : Nat → Reading Node
  | 0 => Reading.breakOff .cut
  | fuel + 1 => do
    let k ← if ← Reading.sees [.value, .comma, .listClose] then do
        Reading.drop
        pure Node.blank
      else node false false fuel
    let v ← valueUnless [.comma, .listClose] false fuel
    pure (.record none [(k, v)])

/-- The entries of a flow record up to its brace. -/
def flowEntries (first : Bool) : Nat → Reading (List (Node × Node))
  | 0 => Reading.breakOff [(.cut, .cut)]
  | fuel + 1 => do
    if ← Reading.sees [.recordClose] then
      Reading.drop
      pure []
    else if !first && !(← Reading.sees [.comma]) then Reading.breakOff [(.cut, .cut)]
    else
      if !first then Reading.drop
      match ← Reading.peek? with
      | none => pure [(.cut, .cut)]
      | some .recordClose =>
        Reading.drop
        pure []
      | some .key =>
        Reading.drop
        let k ← nodeUnless [.value, .comma, .recordClose] false false fuel
        let v ← valueUnless [.comma, .recordClose] false fuel
        pure ((k, v) :: (← flowEntries false fuel))
      | some _ =>
        let k ← node false false fuel
        let v := if (← Reading.peek?).isSome then Node.blank else .cut
        pure ((k, v) :: (← flowEntries false fuel))

end

/-! ## Documents -/

/-- The handles that are in force in every document. -/
def commonHandles : List (String × String) := [("!", "!"), ("!!", "tag:yaml.org,2002:")]

/-- The handles that the directives before a document put in force, and the tokens behind them.
Versions other than 1.1 and 1.2 are refused, and so is whatever stands there twice. -/
def directives? (versioned : Bool) (handles : List (String × String)) :
    List Token → Option (List (String × String) × List Token)
  | .version major minor :: rest =>
    if versioned || major ≠ 1 || (minor ≠ 1 && minor ≠ 2) then none
    else directives? true handles rest
  | .handle name uri :: rest =>
    if handles.any fun h => h.1 = name then none
    else directives? versioned (handles ++ [(name, uri)]) rest
  | ts => some (handles, ts)

/-- The first document of a text: its root, unless the text is empty, its anchors, and whether the
text ends behind it. -/
structure Document where
  root : Option Node
  anchors : Anchors
  ends : Bool

def isFinished (ts : List Token) : Bool :=
  (ts.dropWhile (· = .documentEnd)).head? = some .finish

def isDirective : Token → Bool
  | .version _ _ => true
  | .handle _ _ => true
  | _ => false

/-- A token that no node begins with and that ends a document without one. -/
def endsDocument (t : Token) : Bool :=
  isDirective t || t = .documentStart || t = .documentEnd || t = .finish

namespace Document

def broken : Document := ⟨some .cut, .none, false⟩

def ofReading (read : Reading Node) (handles : List (String × String)) (ts : List Token) : Document :=
  let (root, i) := read.run ⟨ts, handles ++ commonHandles, .none⟩
  ⟨some root, i.anchors, isFinished i.tokens⟩

/-- The node of a document, with fuel for its tokens. -/
def rootNode (ts : List Token) : Reading Node := node true false (4 * ts.length + 8)

/-- A document behind its directives; its mark must follow them. -/
def ofMarked (ts : List Token) : Document :=
  match directives? false [] ts with
  | some (handles, .documentStart :: rest) =>
    if rest.head?.any endsDocument then ofReading (pure .blank) handles rest
    else ofReading (rootNode rest) handles rest
  | _ => broken

/-- The first document of a list of tokens; it may begin without a mark. -/
def ofTokens (ts : List Token) : Document :=
  match ts with
  | [] => broken
  | t :: _ =>
    if t = .finish then ⟨none, .none, true⟩
    else if isDirective t || t = .documentStart then ofMarked ts
    else ofReading (rootNode ts) [] ts

end Document

def readDocument (text : String) : Document := .ofTokens (tokens text.toList).list

end DesiredState.Yaml
