import DesiredState.Host.Operation

/-!
# Cancellation tokens

A token says whether a run may go on. It is asked before every call, and can be set up to cancel
the run at a certain call.

Contents:

* `Timing`, `Trigger`, `Token`: the type.
* `Token.next`: what becomes of the next call, and the token after it.
-/

namespace DesiredState

/-- When a call cancels its run: it still returns, it is not made, or it is made and never
returns. -/
inductive Timing
  | ready
  | before
  | after
  deriving DecidableEq

/-- What will cancel a run: nothing, the next call of an operation, or the end of a number of
calls. -/
inductive Trigger
  | never
  | onCall (operation : Operation) (timing : Timing)
  | afterCalls (count : Nat)
  deriving DecidableEq

/-- Whether a run is cancelled, and what will cancel it. -/
structure Token where
  cancelled : Bool
  trigger : Trigger
  deriving DecidableEq

/-- What becomes of a call: it is refused, it returns, or it is made and its answer is lost. -/
inductive Fate
  | refused
  | returns
  | lost
  deriving DecidableEq

namespace Token

def live : Token := ⟨false, .never⟩

def stopped : Token := ⟨true, .never⟩

/-- A token that lets through a number of calls. -/
def lasting (count : Nat) : Token := ⟨false, .afterCalls count⟩

/-- The token after cancellation; what would have cancelled it stays. -/
def cancel (t : Token) : Token := { t with cancelled := true }

/-- What becomes of a call that cancels its run. -/
def fateAt : Timing → Fate
  | .ready => .returns
  | .before => .refused
  | .after => .lost

/-- What becomes of the next call, and the token after it. -/
def next (t : Token) (op : Operation) : Fate × Token :=
  if t.cancelled then (.refused, t)
  else match t.trigger with
    | .never => (.returns, t)
    | .onCall op' timing => if op' = op then (fateAt timing, stopped) else (.returns, t)
    | .afterCalls 0 => (.refused, stopped)
    | .afterCalls (n + 1) => (.returns, lasting n)

end Token

end DesiredState
