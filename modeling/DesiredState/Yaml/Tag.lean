import DesiredState.Yaml.Scalar
import DesiredState.Yaml.Token

/-!
# Names in YAML texts

Anchors, aliases, tags and directives. Each reader gives a token and the cursor behind it, or
nothing if the text breaks off.

Contents:

* `label?`: the name of an anchor or an alias.
* `tag?`: a tag, its handle and its suffix.
* `directive?`: a directive.
-/

namespace DesiredState.Yaml

/-! ## Anchors and aliases -/

/-- A character that may follow the name of an anchor. -/
def endsName (c : Char) : Bool :=
  c = '?' || c = ':' || c = ',' || c = ']' || c = '\x7d' || c = '%' || c = '@' || c.toNat = 0x60

/-- The name of an anchor or an alias; the cursor stands before its mark. -/
def label? (c : Cursor) : Option (String × Cursor) :=
  let c := c.advance 1
  let name := c.rest.takeWhile isNameChar
  let after := c.advance name.length
  if name.isEmpty then none
  else if isEdge after.peek? || after.sees endsName then some (String.ofList name, after)
  else none

/-! ## Tags -/

/-- A character of a tag; `wide` admits the marks of flow lists and the comma. -/
def isTagChar (wide : Bool) (c : Char) : Bool :=
  isNameChar c || ";/?:@&=+$.%!~*()".toList.contains c || c.toNat = 0x27
    || (wide && (c = ',' || c = '[' || c = ']'))

/-- The number of bytes in a character whose first byte this is. -/
def sequenceLength? (byte : Nat) : Option Nat :=
  if byte < 0x80 then some 1
  else if 0xC0 ≤ byte && byte < 0xE0 then some 2
  else if 0xE0 ≤ byte && byte < 0xF0 then some 3
  else if 0xF0 ≤ byte && byte < 0xF8 then some 4
  else none

def escapedByte? : List Char → Option (Nat × List Char)
  | '%' :: a :: b :: rest => do
    let a ← hexDigit? a
    let b ← hexDigit? b
    some (16 * a + b, rest)
  | _ => none

def continuation? : Nat → Nat → List Char → Option (Nat × List Char)
  | 0, value, cs => some (value, cs)
  | n + 1, value, cs => do
    let (byte, cs) ← escapedByte? cs
    if 0x80 ≤ byte && byte < 0xC0 then continuation? n (64 * value + (byte - 0x80)) cs else none

/-- The bits of its first byte that belong to a character. -/
def leadBits (length byte : Nat) : Nat :=
  match length with
  | 1 => byte
  | 2 => byte % 32
  | 3 => byte % 16
  | _ => byte % 8

/-- A character written byte by byte with percent signs. -/
def escapedChar? (cs : List Char) : Option (Char × List Char) := do
  let (byte, cs) ← escapedByte? cs
  let length ← sequenceLength? byte
  let (value, cs) ← continuation? (length - 1) (leadBits length byte) cs
  if value.isValidChar then some (Char.ofNat value, cs) else none

/-- The characters of a tag; each step takes one. -/
def tagChars (wide : Bool) : Nat → List Char → Option (List Char × List Char)
  | 0, cs => some ([], cs)
  | _ + 1, [] => some ([], [])
  | fuel + 1, c :: rest =>
    if c = '%' then do
      let (x, rest) ← escapedChar? (c :: rest)
      let (xs, rest) ← tagChars wide fuel rest
      some (x :: xs, rest)
    else if isTagChar wide c then do
      let (xs, rest) ← tagChars wide fuel rest
      some (c :: xs, rest)
    else some ([], c :: rest)

def Cursor.tagChars? (c : Cursor) (wide : Bool) : Option (String × Cursor) := do
  let (text, rest) ← tagChars wide c.rest.length c.rest
  some (String.ofList text, c.advance (c.rest.length - rest.length))

/-- An exclamation mark, the name behind it, and the second mark if one follows. -/
def Cursor.handle (c : Cursor) : List Char × Cursor :=
  let name := (c.advance 1).rest.takeWhile isNameChar
  let after := c.advance (name.length + 1)
  if after.looksAt '!' then ('!' :: name ++ ['!'], after.advance 1) else ('!' :: name, after)

/-- The exclamation mark alone, or a name between two of them. -/
def isHandle (handle : List Char) : Bool :=
  handle.length > 1 && handle.getLast? = some '!'

/-- The handle and the suffix of a tag; the cursor stands before its mark. A tag without a handle of
its own has the handle `!`, and the mark alone has none. -/
def tagParts? (c : Cursor) : Option (String × String × Cursor) :=
  if c.second? = some '<' then do
    let (suffix, c) ← (c.advance 2).tagChars? true
    if suffix.isEmpty || !c.looksAt '>' then none else some ("", suffix, c.advance 1)
  else do
    let (handle, after) := c.handle
    let (suffix, after) ← after.tagChars? false
    if isHandle handle then
      if suffix.isEmpty then none else some (String.ofList handle, suffix, after)
    else
      let suffix := String.ofList (handle.drop 1) ++ suffix
      if suffix.isEmpty then some ("", "!", after) else some ("!", suffix, after)

/-- A tag; an edge must follow it, or a comma in flow collections. -/
def tag? (inFlow : Bool) (c : Cursor) : Option (Token × Cursor) := do
  let (handle, suffix, c) ← tagParts? c
  if isEdge c.peek? || (inFlow && c.looksAt ',') then some (.tag handle suffix, c) else none

/-! ## Directives -/

def Cursor.number? (c : Cursor) : Option (Nat × Cursor) :=
  let digits := c.rest.takeWhile Char.isDigit
  if digits.isEmpty || digits.length > 9 then none
  else some (digits.foldl (fun n d => 10 * n + (d.toNat - 48)) 0, c.advance digits.length)

def version? (c : Cursor) : Option (Token × Cursor) := do
  let (major, c) ← (c.skipWhile isTabOrSpace).number?
  if !c.looksAt '.' then none
  else
    let (minor, c) ← (c.advance 1).number?
    some (.version major minor, c)

def handle? (c : Cursor) : Option (Token × Cursor) := do
  let c := c.skipWhile isTabOrSpace
  if !c.looksAt '!' then none
  else
    let (name, c) := c.handle
    if (name.length > 1 && !isHandle name) || !c.sees isTabOrSpace then none
    else
      let (uri, c) ← (c.skipWhile isTabOrSpace).tagChars? true
      if uri.isEmpty || !isEdge c.peek? then none
      else some (.handle (String.ofList name) uri, c)

/-- A directive with the rest of its line; the cursor stands before the percent sign. -/
def directive? (c : Cursor) : Option (Token × Cursor) := do
  let c := c.advance 1
  let name := c.rest.takeWhile isNameChar
  let after := c.advance name.length
  if !isEdge after.peek? then none
  else
    let (token, after) ←
      if name = ['Y', 'A', 'M', 'L'] then version? after
      else if name = ['T', 'A', 'G'] then handle? after
      else none
    let after ← after.restOfLine?
    some (token, after)

end DesiredState.Yaml
