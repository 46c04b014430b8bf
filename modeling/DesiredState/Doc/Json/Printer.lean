import DesiredState.Doc.Basic

/-!
# JSON texts of documents

The compact form, without blanks, and the form for readers, with one field or item a line.

Contents:

* `Json.quote`: a text between double quotes with JSON's escapes.
* `Doc.compact`, `Doc.pretty`: the two forms.
-/

namespace DesiredState

namespace Json

def escapeDigit (n : Nat) : Char := Nat.digitChar n

def escapeChar (c : Char) : List Char :=
  if c = '"' then ['\\', '"']
  else if c = '\\' then ['\\', '\\']
  else if c = '\n' then ['\\', 'n']
  else if c = '\t' then ['\\', 't']
  else if c = '\r' then ['\\', 'r']
  else if c.toNat = 8 then ['\\', 'b']
  else if c.toNat = 12 then ['\\', 'f']
  else if c.toNat < 0x20 then
    ['\\', 'u', '0', '0', escapeDigit (c.toNat / 16), escapeDigit (c.toNat % 16)]
  else [c]

def quote (s : String) : String :=
  String.ofList ('"' :: (s.toList.flatMap escapeChar ++ ['"']))

/-- Key texts; a key that names no field is written as an empty name. -/
def keyText : Key → String
  | .name s => quote s
  | .index n => quote (toString n)
  | .foreign => quote ""

/-- The start of a line at a depth of nesting. -/
def newline (depth : Nat) : String :=
  String.ofList ('\n' :: List.replicate (2 * depth) ' ')

end Json

namespace Doc

mutual

def compact : Doc → String
  | .null => "null"
  | .bool b => if b then "true" else "false"
  | .int n => toString n
  | .real spelling => spelling
  | .text s => Json.quote s
  | .list items => "[" ++ compactItems items ++ "]"
  | .record fields => "\x7b" ++ compactFields fields ++ "\x7d"
  | .fault _ => "null"

def compactItems : List Doc → String
  | [] => ""
  | [d] => compact d
  | d :: rest => compact d ++ "," ++ compactItems rest

def compactFields : List (Key × Doc) → String
  | [] => ""
  | [(k, d)] => Json.keyText k ++ ":" ++ compact d
  | (k, d) :: rest => Json.keyText k ++ ":" ++ compact d ++ "," ++ compactFields rest

end

mutual

/-- The form for readers at a depth of nesting. -/
def prettyAt (depth : Nat) : Doc → String
  | .null => "null"
  | .bool b => if b then "true" else "false"
  | .int n => toString n
  | .real spelling => spelling
  | .text s => Json.quote s
  | .list [] => "[]"
  | .list (d :: rest) =>
    "[" ++ prettyItems (depth + 1) (d :: rest) ++ Json.newline depth ++ "]"
  | .record [] => "\x7b\x7d"
  | .record (f :: rest) =>
    "\x7b" ++ prettyFields (depth + 1) (f :: rest) ++ Json.newline depth ++ "\x7d"
  | .fault _ => "null"

def prettyItems (depth : Nat) : List Doc → String
  | [] => ""
  | [d] => Json.newline depth ++ prettyAt depth d
  | d :: rest => Json.newline depth ++ prettyAt depth d ++ "," ++ prettyItems depth rest

def prettyFields (depth : Nat) : List (Key × Doc) → String
  | [] => ""
  | [(k, d)] => Json.newline depth ++ Json.keyText k ++ ": " ++ prettyAt depth d
  | (k, d) :: rest =>
    Json.newline depth ++ Json.keyText k ++ ": " ++ prettyAt depth d ++ ","
      ++ prettyFields depth rest

end

/-- The form for readers: two blanks for each depth of nesting. -/
def pretty (d : Doc) : String := prettyAt 0 d

end Doc

end DesiredState
