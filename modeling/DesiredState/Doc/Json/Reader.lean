import DesiredState.Doc.Basic

/-!
# Reading JSON texts

A JSON text becomes a document. The reader goes from left to right; where the text is no JSON it
stops and leaves a fault in that place, so that whatever was complete before stays in the document.
A text may be nested to any depth; whoever keeps a value before it is read sets a limit (`Form.upTo`).

Contents:

* `Json.number`, `Json.string`: the leaves.
* `Json.value`, `Json.items`, `Json.fields`: the grammar, with the text's length as fuel.
* `Json.Text`, `Json.read`: the document of a text, and whether the text ends with it.
-/

namespace DesiredState.Json

/-- What a piece of text stands for, and the rest of the text unless it breaks off there. -/
abbrev Read (α : Type) := α × Option (List Char)

def broken : Read Doc := (.fault .malformed, none)

def isSpace (c : Char) : Bool :=
  c = ' ' || c = '\n' || c = '\t' || c = '\r'

def skipSpace (cs : List Char) : List Char :=
  cs.dropWhile isSpace

/-! ## Numbers -/

def decimal (ds : List Char) : Nat :=
  ds.foldl (fun n c => 10 * n + (c.toNat - 48)) 0

/-- An integer in the 64-bit range; a larger one, and a negative zero, is an inexact number. -/
def integer (negative : Bool) (ds : List Char) : Doc :=
  let n := decimal ds
  let spelling := String.ofList (if negative then '-' :: ds else ds)
  if negative then
    if n = 0 || n > 9223372036854775808 then .real spelling else .int (-(n : Int))
  else if n > 18446744073709551615 then .real spelling
  else .int n

/-- The digits after a point, if a point stands there. -/
def fractionPart : List Char → Option (List Char × List Char)
  | '.' :: rest =>
    let ds := rest.takeWhile Char.isDigit
    if ds.isEmpty then none else some ('.' :: ds, rest.drop ds.length)
  | rest => some ([], rest)

def exponentPart : List Char → Option (List Char × List Char)
  | c :: rest =>
    if c = 'e' || c = 'E' then
      let (sign, rest) : List Char × List Char := match rest with
        | '+' :: r => (['+'], r)
        | '-' :: r => (['-'], r)
        | r => ([], r)
      let ds := rest.takeWhile Char.isDigit
      if ds.isEmpty then none else some (c :: sign ++ ds, rest.drop ds.length)
    else some ([], c :: rest)
  | [] => some ([], [])

/-- A number without its sign: no leading zero, then a fraction and an exponent. -/
def unsignedNumber (negative : Bool) (cs : List Char) : Read Doc :=
  let ds := cs.takeWhile Char.isDigit
  let rest := cs.drop ds.length
  if ds.isEmpty || (ds.head? = some '0' && ds.length > 1) then broken
  else
    match fractionPart rest with
    | none => broken
    | some (frac, rest) =>
      match exponentPart rest with
      | none => broken
      | some (exponent, rest) =>
        if frac.isEmpty && exponent.isEmpty then (integer negative ds, some rest)
        else
          let digits := ds ++ frac ++ exponent
          (.real (String.ofList (if negative then '-' :: digits else digits)), some rest)

def number : List Char → Read Doc
  | '-' :: rest => unsignedNumber true rest
  | cs => unsignedNumber false cs

/-! ## Texts -/

def hexValue? (c : Char) : Option Nat :=
  if c.isDigit then some (c.toNat - 48)
  else if 'a' ≤ c && c ≤ 'f' then some (c.toNat - 87)
  else if 'A' ≤ c && c ≤ 'F' then some (c.toNat - 55)
  else none

def hexUnit? : List Char → Option (Nat × List Char)
  | a :: b :: c :: d :: rest => do
    let a ← hexValue? a
    let b ← hexValue? b
    let c ← hexValue? c
    let d ← hexValue? d
    some (4096 * a + 256 * b + 16 * c + d, rest)
  | _ => none

/-- The character of a numeric escape; two escapes form one character beyond the first plane. -/
def escapedUnit? (cs : List Char) : Option (Char × List Char) := do
  let (unit, rest) ← hexUnit? cs
  if 0xDC00 ≤ unit && unit ≤ 0xDFFF then none
  else if 0xD800 ≤ unit && unit ≤ 0xDBFF then
    match rest with
    | '\\' :: 'u' :: rest => do
      let (low, rest) ← hexUnit? rest
      if 0xDC00 ≤ low && low ≤ 0xDFFF then
        some (Char.ofNat (0x10000 + 0x400 * (unit - 0xD800) + (low - 0xDC00)), rest)
      else none
    | _ => none
  else some (Char.ofNat unit, rest)

def shortEscape? (c : Char) : Option Char :=
  if c = '"' || c = '\\' || c = '/' then some c
  else if c = 'b' then some (Char.ofNat 8)
  else if c = 'f' then some (Char.ofNat 12)
  else if c = 'n' then some '\n'
  else if c = 'r' then some '\r'
  else if c = 't' then some '\t'
  else none

/-- The characters up to the closing quote, the last one first; every step takes a character. -/
def stringChars : Nat → List Char → List Char → Option (List Char × List Char)
  | 0, _, _ => none
  | _ + 1, _, [] => none
  | fuel + 1, seen, c :: rest =>
    if c = '"' then some (seen, rest)
    else if c.toNat < 0x20 then none
    else if c = '\\' then
      match rest with
      | [] => none
      | e :: rest =>
        if e = 'u' then
          match escapedUnit? rest with
          | none => none
          | some (u, rest) => stringChars fuel (u :: seen) rest
        else
          match shortEscape? e with
          | none => none
          | some u => stringChars fuel (u :: seen) rest
    else stringChars fuel (c :: seen) rest

def string? (cs : List Char) : Option (String × List Char) :=
  (stringChars (cs.length + 1) [] cs).map fun (seen, rest) => (String.ofList seen.reverse, rest)

/-! ## Values -/

def literal (name : List Char) (d : Doc) (cs : List Char) : Read Doc :=
  if cs.take name.length = name then (d, some (cs.drop name.length)) else broken

mutual

def value : Nat → List Char → Read Doc
  | 0, _ => broken
  | fuel + 1, cs =>
    match skipSpace cs with
    | [] => broken
    | c :: rest =>
      if c = '"' then
        match string? rest with
        | some (s, rest) => (.text s, some rest)
        | none => broken
      else if c = '[' then
        match skipSpace rest with
        | ']' :: rest => (.list [], some rest)
        | _ => let (ds, r) := items fuel rest; (.list ds, r)
      else if c = '\x7b' then
        match skipSpace rest with
        | '\x7d' :: rest => (.record [], some rest)
        | _ => let (fs, r) := fields fuel rest; (.record fs, r)
      else if c = 't' then literal ['t', 'r', 'u', 'e'] (.bool true) (c :: rest)
      else if c = 'f' then literal ['f', 'a', 'l', 's', 'e'] (.bool false) (c :: rest)
      else if c = 'n' then literal ['n', 'u', 'l', 'l'] .null (c :: rest)
      else number (c :: rest)

/-- The items of a list up to its closing bracket; at least one. -/
def items : Nat → List Char → Read (List Doc)
  | 0, _ => ([.fault .malformed], none)
  | fuel + 1, cs =>
    match value fuel cs with
    | (d, none) => ([d], none)
    | (d, some rest) =>
      match skipSpace rest with
      | ',' :: rest => let (ds, r) := items fuel rest; (d :: ds, r)
      | ']' :: rest => ([d], some rest)
      | _ => ([d, .fault .malformed], none)

/-- The fields of a record up to its closing brace; at least one. -/
def fields : Nat → List Char → Read (List (Key × Doc))
  | 0, _ => ([(.name "", .fault .malformed)], none)
  | fuel + 1, cs =>
    match skipSpace cs with
    | '"' :: rest =>
      match string? rest with
      | none => ([(.name "", .fault .malformed)], none)
      | some (k, rest) =>
        match skipSpace rest with
        | ':' :: rest =>
          match value fuel rest with
          | (d, none) => ([(.name k, d)], none)
          | (d, some rest) =>
            match skipSpace rest with
            | ',' :: rest => let (fs, r) := fields fuel rest; ((.name k, d) :: fs, r)
            | '\x7d' :: rest => ([(.name k, d)], some rest)
            | _ => ([(.name k, d), (.name "", .fault .malformed)], none)
        | _ => ([(.name k, .fault .malformed)], none)
    | _ => ([(.name "", .fault .malformed)], none)

end

/-- The document of a text, and whether nothing but blanks follows it. -/
structure Text where
  doc : Doc
  ends : Bool

def read (s : String) : Text :=
  match value (2 * s.length + 2) s.toList with
  | (d, none) => ⟨d, false⟩
  | (d, some rest) => ⟨d, (skipSpace rest).isEmpty⟩

/-- Reads a value of some type from a JSON text; what follows the document is judged last. -/
def Text.decode {α : Type} (t : Text) (read : Doc → Except Fault α) : Except Fault α := do
  let a ← read t.doc
  if t.ends then .ok a else .error .malformed

end DesiredState.Json
