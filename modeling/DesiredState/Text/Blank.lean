/-!
# Blank characters

The characters with the Unicode property White_Space, and cutting them off both ends of a text.

Contents:

* `isBlank`: the property.
* `trimChars`, `trim`: a text without the blanks around it.
* `isBlankText`: nothing but blanks.
-/

namespace DesiredState.Text

/-- White_Space holds of the control separators, the space, and the wide and narrow spaces. -/
def isBlank (c : Char) : Bool :=
  let n := c.toNat
  (9 ≤ n && n ≤ 13) || n == 32 || n == 0x85 || n == 0xA0 || n == 0x1680
    || (0x2000 ≤ n && n ≤ 0x200A) || n == 0x2028 || n == 0x2029 || n == 0x202F
    || n == 0x205F || n == 0x3000

def trimEndChars (cs : List Char) : List Char :=
  (cs.reverse.dropWhile isBlank).reverse

def trimChars (cs : List Char) : List Char :=
  trimEndChars (cs.dropWhile isBlank)

/-- A text without the blanks at either end; blanks inside it stay. -/
def trim (s : String) : String :=
  String.ofList (trimChars s.toList)

def isBlankText (s : String) : Bool :=
  s.toList.all isBlank

end DesiredState.Text
