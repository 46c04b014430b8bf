import DesiredState.Doc.Basic
import DesiredState.Yaml.Scalar

/-!
# Meanings of scalars

A plain scalar is null, a truth value, a number or a text, by its spelling alone. A scalar in quotes
is a text. The tags of the core schema ask for one of these.

Contents:

* `nullWord`, `flagWord?`, `integer?`, `isFloat`: the spellings.
* `plainDoc`: the meaning of a plain scalar.
* `scalarDoc`: the meaning of a scalar with a tag.
-/

namespace DesiredState.Yaml

/-! ## Words -/

def isNullWord (s : String) : Bool :=
  s = "null" || s = "Null" || s = "NULL" || s = "~"

def flagWord? (s : String) : Option Bool :=
  if s = "true" || s = "True" || s = "TRUE" then some true
  else if s = "false" || s = "False" || s = "FALSE" then some false
  else none

/-! ## Integers -/

/-- The number that digits of a base spell; there must be one. -/
def digitsValue? (base : Nat) (cs : List Char) : Option Nat :=
  if cs.isEmpty then none
  else cs.foldlM (fun n c =>
    (hexDigit? c).bind fun d => if d < base then some (base * n + d) else none) 0

def markedValue? : List Char → Option Nat
  | '0' :: 'x' :: ds => digitsValue? 16 ds
  | '0' :: 'o' :: ds => digitsValue? 8 ds
  | '0' :: 'b' :: ds => digitsValue? 2 ds
  | _ => none

def hasLeadingZero : List Char → Bool
  | '0' :: d :: ds => (d :: ds).all Char.isDigit
  | _ => false

def magnitude? (cs : List Char) : Option Nat :=
  (markedValue? cs).or (if hasLeadingZero cs then none else digitsValue? 10 cs)

def integer? : List Char → Option Int
  | '-' :: cs => (magnitude? cs).map fun n => -(n : Int)
  | '+' :: cs => (magnitude? cs).map Int.ofNat
  | cs => (magnitude? cs).map Int.ofNat

/-- The meaning of an integer: one of 64 bits is a number, one of 128 bits fits no field, and a
larger one is no integer. -/
def integerDoc? (n : Int) : Option Doc :=
  if -(Int.pow 2 63) ≤ n && n < Int.pow 2 64 then some (.int n)
  else if -(Int.pow 2 127) ≤ n && n < Int.pow 2 128 then some (.fault .invalidType)
  else none

/-! ## Other numbers -/

/-- The least number that is too large for a double. -/
def doubleBound : Nat := Nat.pow 2 1024 - Nat.pow 2 970

/-- A decimal mantissa times a power of ten is below the bound of doubles. The number of digits
decides unless it is near that of the bound. -/
def isFinite (mantissa : Nat) (exponent : Int) : Bool :=
  let digits : Int := (Nat.toDigits 10 mantissa).length + exponent
  if mantissa = 0 || digits < 300 then true
  else if digits > 310 then false
  else if 0 ≤ exponent then mantissa * Nat.pow 10 exponent.toNat < doubleBound
  else mantissa < doubleBound * Nat.pow 10 (-exponent).toNat

def exponent? : List Char → Option Int
  | [] => some 0
  | c :: rest =>
    if c = 'e' || c = 'E' then
      match rest with
      | '-' :: ds => (digitsValue? 10 ds).map fun n => -(n : Int)
      | '+' :: ds => (digitsValue? 10 ds).map Int.ofNat
      | ds => (digitsValue? 10 ds).map Int.ofNat
    else none

/-- An unsigned decimal number that a double can hold: digits, a point, digits, an exponent. -/
def isDecimal (cs : List Char) : Bool :=
  let whole := cs.takeWhile Char.isDigit
  let rest := cs.drop whole.length
  let (part, rest) := match rest with
    | '.' :: r => (r.takeWhile Char.isDigit, r.dropWhile Char.isDigit)
    | r => ([], r)
  match digitsValue? 10 (whole ++ part), exponent? rest with
  | some mantissa, some e => isFinite mantissa (e - part.length)
  | _, _ => false

def isInfinityWord (cs : List Char) : Bool :=
  cs = ['.', 'i', 'n', 'f'] || cs = ['.', 'I', 'n', 'f'] || cs = ['.', 'I', 'N', 'F']

def isNanWord (cs : List Char) : Bool :=
  cs = ['.', 'n', 'a', 'n'] || cs = ['.', 'N', 'a', 'N'] || cs = ['.', 'N', 'A', 'N']

def isFloat : List Char → Bool
  | '-' :: cs => isInfinityWord cs || isDecimal cs
  | '+' :: cs => isInfinityWord cs || isDecimal cs
  | cs => isInfinityWord cs || isNanWord cs || isDecimal cs

/-! ## Scalars -/

def unsigned : List Char → List Char
  | '-' :: cs => cs
  | '+' :: cs => cs
  | cs => cs

def plainDoc (s : String) : Doc :=
  let cs := s.toList
  if s.isEmpty || isNullWord s then .null
  else match flagWord? s, (integer? cs).bind integerDoc? with
    | some b, _ => .bool b
    | none, some d => d
    | none, none => if !hasLeadingZero (unsigned cs) && isFloat cs then .real s else .text s

def coreTag (name : String) : String := "tag:yaml.org,2002:" ++ name

def isLocalTag (tag : Option String) : Bool := tag.any fun t => t.toList.head? = some '!'

/-- The meaning of a scalar. A tag of the core schema demands a spelling of its own; every other tag
that is not local makes a text. -/
def scalarDoc (tag : Option String) (plain : Bool) (s : String) : Doc :=
  match tag with
  | none => if plain then plainDoc s else .text s
  | some t =>
    if isLocalTag (some t) then .fault .malformed
    else if t = coreTag "bool" then ((flagWord? s).map Doc.bool).getD (.fault .invalidValue)
    else if t = coreTag "int" then
      ((integer? s.toList).bind integerDoc?).getD (.fault .invalidValue)
    else if t = coreTag "float" then
      if isFloat s.toList then .real s else .fault .invalidValue
    else if t = coreTag "null" then if isNullWord s then .null else .fault .invalidValue
    else .text s

end DesiredState.Yaml
