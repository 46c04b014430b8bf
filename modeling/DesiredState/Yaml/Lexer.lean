import DesiredState.Yaml.Tag

/-!
# From texts to tokens

Tokens are taken from left to right. Whether a scalar or a collection is the key of an entry shows
only when a colon follows it, so a token that may yet turn out to begin a key is held back until
this is known: then a key token goes before it, and the token that begins a block collection if the
collection begins here.

A key must end in its line and within 1024 bytes. Where a key has to stand, in the column of its
block collection, the text breaks off if none does.

Contents:

* `PendingKey`, `Lexer`: the state between two tokens.
* `Lexer.next?`: takes the next token.
* `Tokens`, `tokens`: all tokens of a text, up to the place where it breaks off.
-/

namespace DesiredState.Yaml

/-- What may turn out to begin a key: whether it must, the number of its token, and its place. -/
structure PendingKey where
  required : Bool
  number : Nat
  place : Cursor

/-- The state between two tokens. `held` are tokens not yet given away, `given` counts the others.
`indent` is the column of the innermost block collection, `outer` those around it. `keys` holds what
may become a key, for the innermost flow collection first; the last one is for block collections. -/
structure Lexer where
  cursor : Cursor
  held : List Token
  given : Nat
  indent : Int
  outer : List Int
  keys : List (Option PendingKey)
  keyAllowed : Bool
  finished : Bool

namespace Lexer

def ofChars (cs : List Char) : Lexer := ⟨.ofChars cs, [], 0, -1, [], [none], true, false⟩

def inFlow (l : Lexer) : Bool := l.keys.length > 1

def emit (l : Lexer) (t : Token) : Lexer := { l with held := l.held ++ [t] }

/-- The state with a token before the one of a given number. -/
def emitBefore (l : Lexer) (number : Nat) (t : Token) : Lexer :=
  { l with held := l.held.take (number - l.given) ++ t :: l.held.drop (number - l.given) }

/-- The state with a token that takes one character. -/
def emitMark (l : Lexer) (t : Token) : Lexer := { l.emit t with cursor := l.cursor.advance 1 }

/-! ## Keys -/

def isStale (c : Cursor) (k : PendingKey) : Bool :=
  k.place.line < c.line || k.place.offset + 1024 < c.offset

/-- What may be a key at a later place; nothing if it had to be one. -/
def refreshKey (c : Cursor) : Option PendingKey → Option (Option PendingKey)
  | some k => if isStale c k then if k.required then none else some none else some (some k)
  | none => some none

def refresh (l : Lexer) : Option Lexer := do
  let keys ← l.keys.mapM (refreshKey l.cursor)
  some { l with keys := keys }

/-- What may be a key of the innermost collection is none. -/
def dropKey (l : Lexer) : Option Lexer :=
  match l.keys with
  | some k :: outer => if k.required then none else some { l with keys := none :: outer }
  | _ => some l

/-- What begins here may be a key, if one may begin here. -/
def saveKey (l : Lexer) : Option Lexer :=
  if l.keyAllowed then do
    let required := !l.inFlow && l.indent == (l.cursor.column : Int)
    let l' ← l.dropKey
    some { l' with keys := some ⟨required, l.given + l.held.length, l.cursor⟩ :: l'.keys.drop 1 }
  else some l

/-! ## Indentation -/

/-- A block collection begins in a column further in than the innermost one. -/
def openBlock (l : Lexer) (column : Nat) (before : Option Nat) (t : Token) : Lexer :=
  if l.inFlow || (column : Int) ≤ l.indent then l
  else
    let l := { l with indent := column, outer := l.indent :: l.outer }
    match before with
    | some number => l.emitBefore number t
    | none => l.emit t

/-- The block collections further in than a column end. -/
def closeBlocksFrom (column : Int) : List Int → Lexer → Lexer
  | [], l => l
  | i :: outer, l =>
    if l.indent ≤ column then l
    else closeBlocksFrom column outer { l.emit .blockEnd with indent := i, outer := outer }

/-- The block collections further in than a column end; flow collections know no columns. -/
def closeBlocks (l : Lexer) (column : Int) : Lexer :=
  if l.inFlow then l else closeBlocksFrom column l.outer l

/-! ## Blanks and comments -/

/-- A blank that may be skipped: a tab only where no key may begin. -/
def isSkipped (l : Lexer) (c : Char) : Bool :=
  c = ' ' || (c = '\t' && (l.inFlow || !l.keyAllowed))

/-- Skips blanks, comments and line breaks; each step takes a line break. A new line may begin with
a key. -/
def skipFrom : Nat → Lexer → Lexer
  | 0, l => l
  | fuel + 1, l =>
    let c := if l.cursor.column = 0 && l.cursor.looksAt '\ufeff' then l.cursor.advance 1 else l.cursor
    let c := c.skipWhile l.isSkipped
    let c := if c.looksAt '#' then c.skipWhile (!isBreak ·) else c
    if c.sees isBreak then
      skipFrom fuel { l with cursor := c.skipBreak, keyAllowed := l.keyAllowed || !l.inFlow }
    else { l with cursor := c }

def skip (l : Lexer) : Lexer := skipFrom (l.cursor.rest.length + 1) l

/-! ## Tokens -/

/-- The cursor at the beginning of the line that would follow. -/
def lineAfter (c : Cursor) : Cursor :=
  if c.column = 0 then c else { c with line := c.line + 1, column := 0 }

/-- The end of the text; what began in the last line cannot become a key any more. -/
def finish (l : Lexer) : Option Lexer := do
  let l ← (l.closeBlocks (-1)).dropKey
  some { l.emit .finish with keyAllowed := false, finished := true, cursor := lineAfter l.cursor }

def takeDirective (l : Lexer) : Option Lexer := do
  let l ← (l.closeBlocks (-1)).dropKey
  let (t, c) ← directive? l.cursor
  some { l.emit t with keyAllowed := false, cursor := c }

def takeDocumentMark (l : Lexer) (t : Token) : Option Lexer := do
  let l ← (l.closeBlocks (-1)).dropKey
  some { l.emit t with keyAllowed := false, cursor := l.cursor.advance 3 }

def openFlow (l : Lexer) (t : Token) : Option Lexer := do
  let l ← l.saveKey
  some { l.emitMark t with keys := none :: l.keys, keyAllowed := true }

def closeFlow (l : Lexer) (t : Token) : Option Lexer := do
  let l ← l.dropKey
  let keys := match l.keys with
    | _ :: outer :: more => outer :: more
    | keys => keys
  some { l.emitMark t with keys := keys, keyAllowed := false }

def takeComma (l : Lexer) : Option Lexer := do
  let l ← l.dropKey
  some { l.emitMark .comma with keyAllowed := true }

/-- The hyphen before an item of a block list. -/
def takeItem (l : Lexer) : Option Lexer :=
  if !l.inFlow && !l.keyAllowed then none
  else do
    let l ← (l.openBlock l.cursor.column none .blockList).dropKey
    some { l.emitMark .item with keyAllowed := true }

def takeKey (l : Lexer) : Option Lexer :=
  if !l.inFlow && !l.keyAllowed then none
  else do
    let l ← (l.openBlock l.cursor.column none .blockRecord).dropKey
    some { l.emitMark .key with keyAllowed := !l.inFlow }

/-- The colon before a value: what may have been a key is one. -/
def takeValue (l : Lexer) : Option Lexer :=
  match l.keys with
  | some k :: outer =>
    let l := (l.emitBefore k.number .key).openBlock k.place.column (some k.number) .blockRecord
    some { l.emitMark .value with keys := none :: outer, keyAllowed := false }
  | _ =>
    if !l.inFlow && !l.keyAllowed then none
    else
      let l := l.openBlock l.cursor.column none .blockRecord
      some { l.emitMark .value with keyAllowed := !l.inFlow }

def takeName (l : Lexer) (read : Cursor → Option (Token × Cursor)) : Option Lexer := do
  let l ← l.saveKey
  let (t, c) ← read l.cursor
  some { l.emit t with keyAllowed := false, cursor := c }

def takeBlock (l : Lexer) (literal : Bool) : Option Lexer := do
  let l ← l.dropKey
  let (text, c) ← block? literal l.indent l.cursor
  some { l.emit (.scalar false text) with keyAllowed := true, cursor := c }

def takeQuoted (l : Lexer) (double : Bool) : Option Lexer := do
  let l ← l.saveKey
  let (text, c) ← quoted? double l.cursor
  some { l.emit (.scalar false text) with keyAllowed := false, cursor := c }

/-- A plain scalar; behind it a key may begin if it ends in another line. -/
def takePlain (l : Lexer) : Option Lexer := do
  let l ← l.saveKey
  let (text, multiline, c) ← plain? l.inFlow (l.indent + 1).toNat l.cursor
  some { l.emit (.scalar true text) with keyAllowed := multiline, cursor := c }

def isIndicator (c : Char) : Bool :=
  isEdge (some c) || isFlowMark c || "-?:#&*!|>\"%@".toList.contains c || c.toNat = 0x27
    || c.toNat = 0x60

def startsPlain (l : Lexer) (c : Char) : Bool :=
  !isIndicator c || (c = '-' && !l.cursor.second?.any isTabOrSpace)
    || (!l.inFlow && (c = '?' || c = ':') && !isEdge l.cursor.second?)

def takeFrom (l : Lexer) (c : Char) : Option Lexer :=
  let edge := isEdge l.cursor.second?
  if c = '[' then l.openFlow .listOpen
  else if c = '\x7b' then l.openFlow .recordOpen
  else if c = ']' then l.closeFlow .listClose
  else if c = '\x7d' then l.closeFlow .recordClose
  else if c = ',' then l.takeComma
  else if c = '-' && edge then l.takeItem
  else if c = '?' && (l.inFlow || edge) then l.takeKey
  else if c = ':' && (l.inFlow || edge) then l.takeValue
  else if c = '*' then l.takeName fun c => (label? c).map fun (n, c) => (.alias n, c)
  else if c = '&' then l.takeName fun c => (label? c).map fun (n, c) => (.anchor n, c)
  else if c = '!' then l.takeName (tag? l.inFlow)
  else if c = '|' && !l.inFlow then l.takeBlock true
  else if c = '>' && !l.inFlow then l.takeBlock false
  else if c.toNat = 0x27 then l.takeQuoted false
  else if c = '"' then l.takeQuoted true
  else if l.startsPlain c then l.takePlain
  else none

def next? (l : Lexer) : Option Lexer := do
  let l ← l.skip.refresh
  let l := l.closeBlocks l.cursor.column
  match l.cursor.peek? with
  | none => l.finish
  | some c =>
    if l.cursor.column = 0 && c = '%' then l.takeDirective
    else if l.cursor.atTriple '-' then l.takeDocumentMark .documentStart
    else if l.cursor.atTriple '.' then l.takeDocumentMark .documentEnd
    else l.takeFrom c

/-- Nothing that may become a key begins with the first token held. -/
def isReady (l : Lexer) : Bool :=
  l.keys.all fun k => k.all fun k => k.number ≠ l.given

/-- Gives away the tokens held, up to one that may become a key. -/
def release : Nat → Lexer → List Token × Lexer
  | 0, l => ([], l)
  | fuel + 1, l =>
    match l.held with
    | [] => ([], l)
    | t :: held =>
      if l.isReady then
        let (ts, l) := release fuel { l with held := held, given := l.given + 1 }
        (t :: ts, l)
      else ([], l)

end Lexer

/-- The tokens of a text, up to its end or the place where it breaks off. -/
structure Tokens where
  list : List Token
  breaksOff : Bool

def Tokens.after (ts : List Token) (rest : Tokens) : Tokens := ⟨ts ++ rest.list, rest.breaksOff⟩

/-- Takes tokens and gives them away; each step takes a character. -/
def tokensFrom : Nat → Lexer → Tokens
  | 0, _ => ⟨[], true⟩
  | fuel + 1, l =>
    match l.refresh with
    | none => ⟨[], true⟩
    | some l =>
      let (ts, l) := Lexer.release l.held.length l
      if l.finished && l.held.isEmpty then ⟨ts, false⟩
      else match l.next? with
        | none => ⟨ts, true⟩
        | some l => .after ts (tokensFrom fuel l)

/-- The tokens of a text; one with characters that YAML does not admit breaks off at once. -/
def tokens (cs : List Char) : Tokens :=
  if cs.all isPrintable then tokensFrom (cs.length + 3) (.ofChars cs) else ⟨[], true⟩

end DesiredState.Yaml
