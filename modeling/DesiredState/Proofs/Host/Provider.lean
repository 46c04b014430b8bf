import DesiredState.Host.Provider
import DesiredState.Proofs.Host.Consistent
import Mathlib.Logic.Function.Basic

/-!
# Providers and their copies

A provider is rebuilt from the copy of what it hosts: the same resources stand under the same keys.
The identifiers that a provider makes tell its numbers apart.

Contents:

* `Kind.identifier_injective` — one identifier for each number.
* `Provider.hosted`, `Provider.Quiet` — what is hosted, and that no request will be refused.
* `Provider.Moved` — what one host has come to.
* `Provider.hosted_ofSnapshot` — a provider and its copy.
-/

namespace DesiredState

variable {k : Kind}

/-! ## Identifiers -/

/-- The number of a text of hexadecimal digits. -/
def hexValue (ds : List Char) : Nat :=
  ds.foldl (fun n c => 16 * n + if c.isDigit then c.toNat - 48 else c.toNat - 87) 0

theorem hexValue_toDigits (n : Nat) : hexValue (Nat.toDigits 16 n) = n := by
  have digit : ∀ d : Fin 16, hexValue [Nat.digitChar d] = d := by decide
  induction n using Nat.strongRecOn with
  | ind n inductionHypothesis =>
    rw [Nat.toDigits_eq_if (by decide)]
    split
    next small => exact digit ⟨n, small⟩
    next large =>
      have front := inductionHypothesis (n / 16) (by omega)
      have last := digit ⟨n % 16, by omega⟩
      simp only [hexValue, List.foldl_cons, List.foldl_nil, Nat.mul_zero, Nat.zero_add] at last
      rw [hexValue, List.foldl_append, ← hexValue, front, List.foldl_cons, List.foldl_nil, last]
      omega

theorem serialText_injective : Function.Injective serialText := by
  have value (n : Nat) : hexValue (serialText n).toList = n := by
    have zeros (m : Nat) : hexValue (List.replicate m '0') = 0 := by
      induction m with
      | zero => rfl
      | succ m inductionHypothesis =>
        rw [List.replicate_succ', hexValue, List.foldl_append, ← hexValue, inductionHypothesis]
        rfl
    simp only [serialText, String.toList_ofList]
    rw [hexValue, List.foldl_append, ← hexValue, zeros, ← hexValue, hexValue_toDigits]
  intro n n' same
  rw [← value n, same, value n']

theorem Kind.identifier_injective (k : Kind) : Function.Injective k.identifier := by
  intro n n' same
  have lists := congrArg String.toList same
  simp only [Kind.identifier, String.toList_append, List.append_cancel_left_eq] at lists
  exact serialText_injective (String.toList_inj.mp lists)

/-! ## Providers -/

namespace Provider

def hosted (p : Provider) (k : Kind) : Dict (HostedOf k) := (p.host k).hosted

/-- No request will be refused. -/
def Quiet (p : Provider) : Prop := ∀ k op, (p.host k).faults op = none

theorem host_withSimulator (p : Provider) (w : Simulator k) :
    (p.withSimulator w).host k = w.toHost := p.host_setHost w.toHost

theorem host_withSimulator_of_ne (p : Provider) (w : Simulator k) {k' : Kind} (other : k' ≠ k) :
    (p.withSimulator w).host k' = p.host k' := p.host_setHost_of_ne w.toHost other.symm

theorem hosted_withSimulator (p : Provider) (w : Simulator k) :
    (p.withSimulator w).hosted k = w.hosted :=
  congrArg Host.hosted (p.host_withSimulator w)

theorem hosted_withSimulator_of_ne (p : Provider) (w : Simulator k) {k' : Kind} (other : k' ≠ k) :
    (p.withSimulator w).hosted k' = p.hosted k' :=
  congrArg Host.hosted (p.host_withSimulator_of_ne w other)

/-- One host has come to host these resources, and the next number is this one. -/
structure Moved (p : Provider) (k : Kind) (hosted : Dict (HostedOf k)) (serial : Numbering)
    (p' : Provider) : Prop where
  quiet : p'.Quiet
  hosted : p'.hosted k = hosted
  others : ∀ k', k' ≠ k → p'.hosted k' = p.hosted k'
  serial : p'.serial = serial

namespace Moved

variable {p p' : Provider} {key : String} {h : HostedOf k} {serial : Numbering}

theorem hosted_of_still (moved : p.Moved k (p.hosted k) serial p') (k' : Kind) :
    p'.hosted k' = p.hosted k' := by
  by_cases same : k' = k
  · exact same ▸ moved.hosted
  · exact moved.others k' same

theorem get?_self (moved : p.Moved k ((p.hosted k).insert key h) serial p') :
    (p'.hosted k).get? key = some h := by
  rw [moved.hosted, Dict.get?_insert_self]

theorem get?_of_apart (moved : p.Moved k ((p.hosted k).insert key h) serial p') {k' : Kind}
    {key' : String} (apart : k' = k → key' ≠ key) :
    (p'.hosted k').get? key' = (p.hosted k').get? key' := by
  by_cases same : k' = k
  · subst same
    rw [moved.hosted, Dict.get?_insert_of_ne _ _ (apart rfl)]
  · rw [moved.others k' same]

end Moved

/-! ## Copies -/

theorem snapshot_congr {p p' : Provider} (same : ∀ k, p'.hosted k = p.hosted k) :
    p'.snapshot = p.snapshot :=
  congrArg Snapshot.mk (funext fun k => congrArg Dict.values (same k))

theorem quiet_ofSnapshot (serial : Numbering) (s : Snapshot) : (ofSnapshot serial s).Quiet :=
  fun _ _ => rfl

/-- A provider whose resources stand under their identifiers, and the one that is made of its copy,
host the same. -/
theorem hosted_ofSnapshot_of_keyed {p : Provider}
    (keyed : ∀ key h, (p.hosted k).get? key = some h → h.identifier = key) (serial : Numbering) :
    (ofSnapshot serial p.snapshot).hosted k = p.hosted k := by
  have entries : (p.hosted k).values.map (fun h => (h.identifier, h)) = (p.hosted k).entries := by
    rw [Dict.values, List.map_map]
    refine (List.map_congr_left fun e member => ?_).trans (List.map_id _)
    exact Prod.ext (keyed e.1 e.2 (Dict.get?_eq_some_iff.mpr member)) rfl
  show Dict.ofList ((p.hosted k).values.map fun h => (h.identifier, h)) = p.hosted k
  rw [entries]
  exact Dict.ofList_entries (p.hosted k)

theorem hosted_ofSnapshot {p : Provider} (consistent : Consistent (p.hosted k)) (serial : Numbering) :
    (ofSnapshot serial p.snapshot).hosted k = p.hosted k :=
  hosted_ofSnapshot_of_keyed (fun key h there => (consistent key h there).2) serial

end Provider

end DesiredState
