/-!
# Numbers for new identifiers

Whoever creates resources numbers them. The numbers may be any: they are taken from a sequence, one
after the other, and nothing is known of the sequence but what is asked of it where it matters.

Contents:

* `Numbering`: the type.
* `Numbering.next`, `Numbering.succ`: the next number, and what is left when it is given away.
-/

namespace DesiredState

/-- A sequence of numbers, and how far it has been given away. -/
structure Numbering where
  position : Nat
  number : Nat → Nat := id

namespace Numbering

/-- The natural numbers from one of them on. -/
instance (n : Nat) : OfNat Numbering n := ⟨⟨n, id⟩⟩

/-- The number that is given away next. -/
def next (n : Numbering) : Nat := n.number n.position

def succ (n : Numbering) : Numbering := { n with position := n.position + 1 }

end Numbering

end DesiredState
