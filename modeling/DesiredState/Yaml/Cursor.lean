/-!
# Cursors in YAML texts

The characters that have a meaning of their own in YAML, and a place in a text together with its
line and column.

Contents:

* `isBreak`, `isTabOrSpace`, `isEdge`: classes of characters.
* `Cursor`: a place in a text.
* `Gap`: blanks and line breaks between two words of a scalar, and how they fold.
-/

namespace DesiredState.Yaml

/-! ## Characters -/

def isBreak (c : Char) : Bool :=
  c = '\n' || c = '\r' || c = '\u0085' || c = '\u2028' || c = '\u2029'

def isTabOrSpace (c : Char) : Bool := c = ' ' || c = '\t'

/-- A word ends here: a blank, a line break, or the end of the text. -/
def isEdge : Option Char → Bool
  | none => true
  | some c => isTabOrSpace c || isBreak c

/-- A character that opens, closes or separates flow collections. -/
def isFlowMark (c : Char) : Bool :=
  c = ',' || c = '[' || c = ']' || c = '\x7b' || c = '\x7d'

/-- A character that names of anchors and tag handles may hold. -/
def isNameChar (c : Char) : Bool := c.isAlphanum || c = '_' || c = '-'

def isPrintable (c : Char) : Bool :=
  let n := c.toNat
  n = 0x9 || n = 0xA || n = 0xD || (0x20 ≤ n && n ≤ 0x7E) || n = 0x85 || (0xA0 ≤ n && n ≤ 0xFFFD)
    || 0x10000 ≤ n

/-! ## Cursors -/

/-- A place in a text: what follows it, the bytes before it, its line and its column. -/
structure Cursor where
  rest : List Char
  offset : Nat
  line : Nat
  column : Nat

namespace Cursor

def ofChars (cs : List Char) : Cursor := ⟨cs, 0, 0, 0⟩

def peek? (c : Cursor) : Option Char := c.rest.head?

def second? (c : Cursor) : Option Char := c.rest[1]?

def looksAt (c : Cursor) (x : Char) : Bool := c.peek? = some x

def sees (c : Cursor) (p : Char → Bool) : Bool := c.peek?.any p

/-- The cursor after a number of characters of its line. -/
def advance (c : Cursor) (n : Nat) : Cursor :=
  { c with
    rest := c.rest.drop n
    offset := (c.rest.take n).foldl (fun offset x => offset + x.utf8Size) c.offset
    column := c.column + n }

def skipWhile (c : Cursor) (p : Char → Bool) : Cursor :=
  c.advance (c.rest.takeWhile p).length

/-- What a line break stands for in a scalar. -/
def breakChar (c : Cursor) : Char :=
  match c.peek? with
  | some x => if x = '\u2028' || x = '\u2029' then x else '\n'
  | none => '\n'

/-- The cursor after a line break; a carriage return and a line feed are one break. -/
def skipBreak (c : Cursor) : Cursor :=
  let n := match c.rest with
    | '\r' :: '\n' :: _ => 2
    | _ => 1
  { c.advance n with line := c.line + 1, column := 0 }

/-- The cursor stands before three of these characters at the beginning of a line, and nothing
follows them in their word. -/
def atTriple (c : Cursor) (x : Char) : Bool :=
  c.column = 0 && c.rest.take 3 = [x, x, x] && isEdge c.rest[3]?

/-- The cursor stands before the mark that begins or ends a document. -/
def atDocumentMark (c : Cursor) : Bool := c.atTriple '-' || c.atTriple '.'

end Cursor

/-! ## Gaps -/

/-- What lies between two words of a scalar: the blanks before the first line break, and all line
breaks. -/
structure Gap where
  blanks : List Char
  breaks : List Char

namespace Gap

def none : Gap := ⟨[], []⟩

def isMultiline (g : Gap) : Bool := !g.breaks.isEmpty

/-- What a gap stands for: a lone line break is a space, and of several the first is dropped. -/
def folded (g : Gap) : List Char :=
  match g.breaks with
  | [] => g.blanks
  | '\n' :: [] => [' ']
  | '\n' :: more => more
  | breaks => breaks

end Gap

/-- Takes blanks and line breaks; each step takes a character. After a line break a tab in a column
before the margin is refused. -/
def gapFrom (margin : Nat) : Nat → Gap → Cursor → Option (Gap × Cursor)
  | 0, g, c => some (g, c)
  | fuel + 1, g, c =>
    if c.sees isTabOrSpace then
      if g.isMultiline then
        if c.looksAt '\t' && c.column < margin then none
        else gapFrom margin fuel g (c.advance 1)
      else gapFrom margin fuel { g with blanks := g.blanks ++ c.rest.take 1 } (c.advance 1)
    else if c.sees isBreak then
      gapFrom margin fuel { g with breaks := g.breaks ++ [c.breakChar] } c.skipBreak
    else some (g, c)

def Cursor.gap? (c : Cursor) (margin : Nat) : Option (Gap × Cursor) :=
  gapFrom margin c.rest.length .none c

end DesiredState.Yaml
