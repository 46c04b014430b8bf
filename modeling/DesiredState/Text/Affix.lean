/-!
# Beginnings and ends of texts

Contents:

* `startsWith`, `endsWith`: whether a text begins or ends with another one.
-/

namespace DesiredState.Text

def startsWith (head s : String) : Bool :=
  head.toList.isPrefixOf s.toList

def endsWith (tail s : String) : Bool :=
  tail.toList.isSuffixOf s.toList

end DesiredState.Text
