import DesiredState.Yaml.Cursor

/-!
# Scalars of YAML

The three ways of writing a scalar: plain, in quotes, or as a block of indented lines. Each reader
takes a cursor at the beginning of the scalar and gives its text and the cursor behind it, or
nothing if the text breaks off.

Contents:

* `plain?`: plain scalars.
* `quoted?`: scalars in single or double quotes.
* `block?`: literal and folded blocks.
-/

namespace DesiredState.Yaml

/-! ## Plain scalars -/

/-- A character that may not follow a colon within a plain word of a flow collection. -/
def isRefusedAfterColon (c : Char) : Bool := isFlowMark c || c = '?'

/-- The word of a plain scalar: it ends before an edge, before a colon at an edge, and in flow
collections before their marks. -/
def plainWord? (inFlow : Bool) : List Char → Option (List Char)
  | [] => some []
  | c :: rest =>
    if isEdge (some c) then some []
    else if inFlow && c = ':' && rest.head?.any isRefusedAfterColon then none
    else if c = ':' && isEdge rest.head? then some []
    else if inFlow && isFlowMark c then some []
    else (plainWord? inFlow rest).map (c :: ·)

/-- Takes words and the gaps between them; each step takes a character. The last gap is not part of
the scalar. -/
def plainFrom (inFlow : Bool) (margin : Nat) :
    Nat → List Char → Gap → Cursor → Option (List Char × Gap × Cursor)
  | 0, text, gap, c => some (text, gap, c)
  | fuel + 1, text, gap, c =>
    if c.atDocumentMark || c.looksAt '#' then some (text, gap, c)
    else do
      let word ← plainWord? inFlow c.rest
      let (text, gap) := if word.isEmpty then (text, gap) else (text ++ gap.folded ++ word, .none)
      let c := c.advance word.length
      if c.peek?.isSome && isEdge c.peek? then
        let (gap, c) ← c.gap? margin
        if !inFlow && c.column < margin then some (text, gap, c)
        else plainFrom inFlow margin fuel text gap c
      else some (text, gap, c)

/-- A plain scalar: its text, whether the cursor has come to another line, and the cursor. -/
def plain? (inFlow : Bool) (margin : Nat) (c : Cursor) : Option (String × Bool × Cursor) := do
  let (text, gap, c) ← plainFrom inFlow margin (c.rest.length + 1) [] .none c
  some (String.ofList text, gap.isMultiline, c)

/-! ## Quoted scalars -/

def hexDigit? (c : Char) : Option Nat :=
  if c.isDigit then some (c.toNat - 48)
  else if 'a' ≤ c && c ≤ 'f' then some (c.toNat - 87)
  else if 'A' ≤ c && c ≤ 'F' then some (c.toNat - 55)
  else none

def hexValue? (count : Nat) (cs : List Char) : Option Nat :=
  if (cs.take count).length < count then none
  else (cs.take count).foldlM (fun n c => (hexDigit? c).map fun d => 16 * n + d) 0

def numericEscape? (count : Nat) (cs : List Char) : Option (Char × Nat) := do
  let n ← hexValue? count cs
  if n.isValidChar then some (Char.ofNat n, count) else none

/-- The character that an escape stands for, given what follows the backslash, and the number of
characters taken after the first one. -/
def escape? (e : Char) (cs : List Char) : Option (Char × Nat) :=
  match e with
  | '0' => some (Char.ofNat 0, 0)
  | 'a' => some (Char.ofNat 7, 0)
  | 'b' => some (Char.ofNat 8, 0)
  | 't' => some ('\t', 0)
  | '\t' => some ('\t', 0)
  | 'n' => some ('\n', 0)
  | 'v' => some (Char.ofNat 11, 0)
  | 'f' => some (Char.ofNat 12, 0)
  | 'r' => some ('\r', 0)
  | 'e' => some (Char.ofNat 27, 0)
  | ' ' => some (' ', 0)
  | '"' => some ('"', 0)
  | '/' => some ('/', 0)
  | '\\' => some ('\\', 0)
  | 'N' => some ('\u0085', 0)
  | '_' => some ('\u00a0', 0)
  | 'L' => some ('\u2028', 0)
  | 'P' => some ('\u2029', 0)
  | 'x' => numericEscape? 2 cs
  | 'u' => numericEscape? 4 cs
  | 'U' => numericEscape? 8 cs
  | _ => none

/-- The word of a scalar in double quotes and the number of its characters: it ends before an edge,
the quote, or an escaped line break. -/
def doubleWord? : Nat → List Char → Option (List Char × Nat)
  | 0, _ => some ([], 0)
  | _ + 1, [] => some ([], 0)
  | fuel + 1, c :: rest =>
    if isEdge (some c) || c = '"' then some ([], 0)
    else if c = '\\' then
      match rest with
      | [] => none
      | e :: rest =>
        if isBreak e then some ([], 0)
        else do
          let (x, taken) ← escape? e rest
          let (word, n) ← doubleWord? fuel (rest.drop taken)
          some (x :: word, n + taken + 2)
    else do
      let (word, n) ← doubleWord? fuel rest
      some (c :: word, n + 1)

/-- The word of a scalar in single quotes and the number of its characters: it ends before an edge
or a quote; two quotes stand for one. -/
def singleWord : List Char → List Char × Nat
  | '\'' :: '\'' :: rest =>
    let (word, n) := singleWord rest
    ('\'' :: word, n + 2)
  | [] => ([], 0)
  | c :: rest =>
    if isEdge (some c) || c = '\'' then ([], 0)
    else
      let (word, n) := singleWord rest
      (c :: word, n + 1)

def quotedWord? (double : Bool) (cs : List Char) : Option (List Char × Nat) :=
  if double then doubleWord? (cs.length + 1) cs else some (singleWord cs)

def Cursor.atEscapedBreak (c : Cursor) : Bool :=
  c.looksAt '\\' && c.second?.any isBreak

/-- Takes words and gaps up to the closing quote; each step takes a character. An escaped line
break joins two lines without a space. -/
def quotedFrom (double : Bool) : Nat → List Char → Cursor → Option (List Char × Cursor)
  | 0, _, _ => none
  | fuel + 1, text, c =>
    if c.atDocumentMark || c.rest.isEmpty then none
    else do
      let (word, n) ← quotedWord? double c.rest
      let c := c.advance n
      let joined := double && c.atEscapedBreak
      let c := if joined then (c.advance 1).skipBreak else c
      let text := text ++ word
      if c.looksAt (if double then '"' else '\'') then some (text, c.advance 1)
      else
        let (gap, c) ← c.gap? 0
        quotedFrom double fuel (text ++ if joined then gap.breaks else gap.folded) c

/-- A scalar in quotes; the cursor stands before the opening one. -/
def quoted? (double : Bool) (c : Cursor) : Option (String × Cursor) := do
  let (text, c) ← quotedFrom double (c.rest.length + 1) [] (c.advance 1)
  some (String.ofList text, c)

/-! ## Blocks -/

/-- What becomes of the line breaks at the end of a block. -/
inductive Chomping
  | strip
  | clip
  | keep

def chomping? (c : Cursor) : Option Chomping :=
  if c.looksAt '+' then some .keep else if c.looksAt '-' then some .strip else none

/-- The indentation indicator, zero if none stands here; a zero that is written is refused. -/
def indicator? (c : Cursor) : Option (Nat × Cursor) :=
  match c.peek? with
  | some d =>
    if d.isDigit then
      if d = '0' then none else some (d.toNat - 48, c.advance 1)
    else some (0, c)
  | none => some (0, c)

/-- The two indicators of a block in either order. -/
def blockHeader? (c : Cursor) : Option (Chomping × Nat × Cursor) :=
  match chomping? c with
  | some chomping => do
    let (indent, c) ← indicator? (c.advance 1)
    some (chomping, indent, c)
  | none => do
    let (indent, c) ← indicator? c
    match indent, chomping? c with
    | 0, _ => some (.clip, 0, c)
    | _, some chomping => some (chomping, indent, c.advance 1)
    | _, none => some (.clip, indent, c)

/-- The cursor after blanks and a comment; something else before the end of the line is refused. -/
def Cursor.restOfLine? (c : Cursor) : Option Cursor :=
  let c := c.skipWhile isTabOrSpace
  let c := if c.looksAt '#' then c.skipWhile (!isBreak ·) else c
  if c.sees isBreak then some c.skipBreak else if c.rest.isEmpty then some c else none

/-- The cursor after the spaces of an indentation, at most up to a column unless it is zero. -/
def Cursor.skipIndent (indent : Nat) (c : Cursor) : Cursor :=
  let spaces := (c.rest.takeWhile (· = ' ')).length
  c.advance (if indent = 0 then spaces else min spaces (indent - c.column))

/-- Takes empty lines and the indentation of the next one; each step takes a line break. Gives the
widest indentation seen and the line breaks; a tab within the indentation is refused. -/
def marginFrom (indent : Nat) : Nat → Nat → List Char → Cursor → Option (Nat × List Char × Cursor)
  | 0, widest, breaks, c => some (widest, breaks, c)
  | fuel + 1, widest, breaks, c =>
    let c := c.skipIndent indent
    let widest := max widest c.column
    if (indent = 0 || c.column < indent) && c.looksAt '\t' then none
    else if c.sees isBreak then
      marginFrom indent fuel widest (breaks ++ [c.breakChar]) c.skipBreak
    else some (widest, breaks, c)

/-- The empty lines before a line of a block. -/
def margin? (indent : Nat) (c : Cursor) : Option (Nat × List Char × Cursor) :=
  marginFrom indent (c.rest.length + 1) 0 [] c

/-- A block as far as it is read: its text, the break that ends its last line, the empty lines after
it, and whether its last line began with a blank. -/
structure BlockText where
  text : List Char
  lastBreak : List Char
  breaks : List Char
  indented : Bool

/-- The text with the breaks before the next line: a folded block turns a lone break between two
lines that begin with no blank into a space. -/
def BlockText.joined (literal indented : Bool) (b : BlockText) : List Char :=
  if !literal && b.lastBreak = ['\n'] && !b.indented && !indented then
    if b.breaks.isEmpty then b.text ++ [' '] else b.text ++ b.breaks
  else b.text ++ b.lastBreak ++ b.breaks

/-- The text without its lines at the end, or with some of them. -/
def BlockText.chomped (b : BlockText) : Chomping → List Char
  | .strip => b.text
  | .clip => b.text ++ b.lastBreak
  | .keep => b.text ++ b.lastBreak ++ b.breaks

/-- Takes the lines of a block; each step takes a character. -/
def blockFrom (literal : Bool) (indent : Nat) : Nat → BlockText → Cursor → Option (BlockText × Cursor)
  | 0, b, c => some (b, c)
  | fuel + 1, b, c =>
    if c.column = indent && !c.rest.isEmpty then do
      let indented := c.sees isTabOrSpace
      let line := c.rest.takeWhile (!isBreak ·)
      let text := b.joined literal indented ++ line
      let c := c.advance line.length
      let (lastBreak, c) := if c.sees isBreak then ([c.breakChar], c.skipBreak) else ([], c)
      let (_, breaks, c) ← margin? indent c
      blockFrom literal indent fuel ⟨text, lastBreak, breaks, indented⟩ c
    else some (b, c)

/-- A block; the cursor stands before its indicator. Unless the indentation is written it is that of
the first line, and always more than that of the parent. -/
def block? (literal : Bool) (parent : Int) (c : Cursor) : Option (String × Cursor) := do
  let (chomping, increment, c) ← blockHeader? (c.advance 1)
  let c ← c.restOfLine?
  let least := (parent + 1).toNat
  let fixed := if increment = 0 then 0 else if 0 ≤ parent then parent.toNat + increment else increment
  let (widest, breaks, c) ← margin? fixed c
  let indent := if fixed = 0 then max (max widest least) 1 else fixed
  let (b, c) ← blockFrom literal indent (c.rest.length + 1) ⟨[], [], breaks, false⟩ c
  some (String.ofList (b.chomped chomping), c)

end DesiredState.Yaml
