import DesiredState.Host.Simulator

/-!
# Faults

A fault refuses one request and is used up by it.  Faults never come back, so their number bounds
how often a host can refuse.

Contents:

* `Simulator.noted`, `Simulator.struck` — a host after a request was written down or refused.
* `Spent`, `Struck` — faults went away, and at least one did.
* `Host.pendingFaults` — the number of faults.
-/

namespace DesiredState

variable {k : Kind} {α : Type}

/-! ## Entering a request -/

namespace Simulator

def noted (w : Simulator k) (c : Call k) : Simulator k :=
  { w with journal := w.journal ++ [c] }

def struck (w : Simulator k) (c : Call k) : Simulator k :=
  { w.noted c with faults := fun op => if op = c.operation then none else w.faults op }

theorem enter_of_fault {c : Call k} {act : Request (Simulator k) α} {w : Simulator k}
    {e : GatewayError} (pending : w.faults c.operation = some e) :
    enter c act w = (.error e, w.struck c) := by
  simp only [enter, pending]
  rfl

theorem enter_of_quiet {c : Call k} {act : Request (Simulator k) α} {w : Simulator k}
    (quiet : w.faults c.operation = none) : enter c act w = act (w.noted c) := by
  simp only [enter, quiet]
  rfl

def calm (w : Simulator k) : Simulator k := { w with faults := fun _ => none }

end Simulator

/-! ## Faults go away -/

/-- Between two states of a host faults only went away. -/
def Spent (w w' : Simulator k) : Prop :=
  ∀ op, w'.faults op = w.faults op ∨ w'.faults op = none

/-- Between two states of a host faults only went away, and at least one did. -/
structure Struck (w w' : Simulator k) : Prop where
  spent : Spent w w'
  used : ∃ op e, w.faults op = some e ∧ w'.faults op = none

namespace Spent

variable {w w' w'' : Simulator k}

theorem of_eq (same : w'.faults = w.faults) : Spent w w' := fun _ => .inl (by rw [same])

theorem refl (w : Simulator k) : Spent w w := .of_eq rfl

theorem trans (first : Spent w w') (second : Spent w' w'') : Spent w w'' := by
  intro op
  rcases second op with same | gone
  · rw [same]
    exact first op
  · exact .inr gone

theorem quiet (spent : Spent w w') {op : Operation} (quiet : w.faults op = none) :
    w'.faults op = none := by
  rcases spent op with same | gone
  · rw [same, quiet]
  · exact gone

end Spent

namespace Struck

variable {w w' w'' : Simulator k}

theorem after (struck : Struck w' w'') (first : Spent w w') : Struck w w'' := by
  obtain ⟨spent, op, e, pending, gone⟩ := struck
  refine ⟨first.trans spent, op, e, ?_, gone⟩
  rcases first op with same | gone'
  · rw [← same, pending]
  · rw [gone'] at pending
    cases pending

theorem before (struck : Struck w w') (second : Spent w' w'') : Struck w w'' := by
  obtain ⟨spent, op, e, pending, gone⟩ := struck
  exact ⟨spent.trans second, op, e, pending, second.quiet gone⟩

theorem absurd_of_quiet {P : Prop} (struck : Struck w w') (quiet : ∀ op, w.faults op = none) : P := by
  obtain ⟨-, op, e, pending, -⟩ := struck
  rw [quiet op] at pending
  cases pending

end Struck

theorem spent_noted (w : Simulator k) (c : Call k) : Spent w (w.noted c) := .of_eq rfl

theorem struck_struck {w : Simulator k} {c : Call k} {e : GatewayError}
    (pending : w.faults c.operation = some e) : Struck w (w.struck c) := by
  refine ⟨fun op => ?_, c.operation, e, pending, ?_⟩
  · by_cases same : op = c.operation
    · exact .inr (by simp [Simulator.struck, same])
    · exact .inl (by simp [Simulator.struck, same])
  · simp [Simulator.struck]

/-! ## Counting -/

/-- The number of pending faults. -/
def Host.pendingFaults (h : Host k) : Nat :=
  Operation.all.countP fun op => (h.faults op).isSome

theorem Operation.mem_all (op : Operation) : op ∈ Operation.all := by
  cases op <;> decide

theorem Spent.countP_le {w w' : Simulator k} (spent : Spent w w') (ops : List Operation) :
    ops.countP (fun op => (w'.faults op).isSome) ≤ ops.countP fun op => (w.faults op).isSome := by
  refine List.countP_mono_left fun op _ pending => ?_
  rcases spent op with same | gone
  · rwa [same] at pending
  · simp [gone] at pending

theorem Struck.pendingFaults_lt {w w' : Simulator k} (struck : Struck w w') :
    w'.pendingFaults < w.pendingFaults := by
  obtain ⟨spent, op, e, pending, gone⟩ := struck
  -- The fault that was used up stands somewhere in the list; beside it the count does not grow.
  obtain ⟨front, back, split⟩ := List.append_of_mem op.mem_all
  have before := spent.countP_le front
  have after := spent.countP_le back
  simp only [Host.pendingFaults, split, List.countP_append, List.countP_cons, pending, gone,
    Option.isSome_some, Option.isSome_none, if_true, Bool.false_eq_true, if_false]
  omega

end DesiredState
