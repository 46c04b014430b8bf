/-!
# Colours of terminals

Contents:

* `Style`: the styles in use.
* `Palette.paint`: a text in a style, between the codes that begin and end it.
* `padLeft`, `padRight`: texts of a least width.
-/

namespace DesiredState

/-- The styles in use. -/
inductive Style
  | green
  | yellow
  | red
  | dim
  deriving DecidableEq

def Style.code : Style → String
  | .green => "\x1b[32m"
  | .yellow => "\x1b[33m"
  | .red => "\x1b[31m"
  | .dim => "\x1b[2m"

def styleEnd : String := "\x1b[0m"

/-- With colours or without. -/
inductive Palette
  | plain
  | coloured
  deriving DecidableEq

/-- A text in a style; where a style ends within the text this one goes on. -/
def Palette.paint (style : Style) (text : String) : Palette → String
  | .plain => text
  | .coloured => style.code ++ text.replace styleEnd (styleEnd ++ style.code) ++ styleEnd

/-- Blanks that bring a text to a width; every character counts, codes of styles included. -/
def blanksFor (width : Nat) (text : String) : String :=
  String.ofList (List.replicate (width - text.length) ' ')

def padLeft (width : Nat) (text : String) : String := blanksFor width text ++ text

def padRight (width : Nat) (text : String) : String := text ++ blanksFor width text

end DesiredState
