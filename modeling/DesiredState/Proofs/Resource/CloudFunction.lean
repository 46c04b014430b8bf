import DesiredState.Proofs.Resource.Laws
import DesiredState.Proofs.Text.Trim
import DesiredState.Resource.CloudFunction

/-!
# Functions keep the laws

The slots of a function's changes, what its specification wants, and the laws of `Rules` for it.  A
package is shown by its digest alone.
-/

namespace DesiredState.CloudFunction

def Change.slot : Change → Nat
  | .code _ => 0
  | .timeout _ => 1
  | .memorySize _ => 2
  | .environment _ => 3
  | .handler _ => 4
  | .runtime _ => 5

def wants (d : Desired) : List Change :=
  [.code d.code] ++ (d.timeout.map Change.timeout).toList
    ++ (d.memorySize.map Change.memorySize).toList ++ [.environment d.environment]
    ++ (d.handler.map Change.handler).toList
    ++ (if d.runtime.isEmpty then [] else [.runtime d.runtime])

def shows : Change → Attributes → Bool
  | .code v, a => v.sha256 == a.codeSha256
  | .timeout v, a => v == a.timeout
  | .memorySize v, a => v == a.memorySize
  | .environment v, a => decide (v = a.environment)
  | .handler v, a => some v == a.handler
  | .runtime v, a => v == a.runtime

theorem nodup_slots (d : Desired) : ((wants d).map Change.slot).Nodup := by
  have runtime : ((if d.runtime.isEmpty then [] else [Change.runtime d.runtime]).map
      Change.slot).Sublist [5] := by
    split
    · exact List.nil_sublist _
    · exact .refl _
  have sublist : ((wants d).map Change.slot).Sublist ([0] ++ [1] ++ [2] ++ [3] ++ [4] ++ [5]) := by
    simp only [wants, List.map_append]
    repeat' apply List.Sublist.append
    all_goals first
      | exact .refl _
      | exact runtime
      | (apply Rules.slots_sublist; intro; rfl)
  exact sublist.nodup (by decide)

theorem diff_eq (d : Desired) (a : Attributes) :
    diff d a = (wants d).filter fun c => !shows c a := by
  simp only [wants, List.filter_append, Rules.filter_changes, Rules.filter_change]
  by_cases code : d.code.sha256 = a.codeSha256 <;>
    by_cases environment : d.environment = a.environment <;>
    by_cases unset : d.runtime.isEmpty <;>
    by_cases runtime : d.runtime = a.runtime <;>
    simp [diff, shows, code, environment, unset, runtime, bne]

def changeLaws : rules.ChangeLaws where
  slot := Change.slot
  wants := wants
  shows := shows
  diff_eq := diff_eq
  nodup_slots := nodup_slots
  shows_apply c a := by cases c <;> simp [rules, apply, shows]
  shows_apply_of_ne c c' a apart := by
    cases c <;> cases c' <;> first | rfl | exact absurd rfl apart
  apply_comm c c' a apart := by
    cases c <;> cases c' <;> first | rfl | exact absurd rfl apart

structure Untouched (cs : List Change) (a b : Attributes) : Prop where
  runtime : (∀ v, .runtime v ∉ cs) → b.runtime = a.runtime
  handler : (∀ v, .handler v ∉ cs) → b.handler = a.handler
  timeout : (∀ v, .timeout v ∉ cs) → b.timeout = a.timeout
  memorySize : (∀ v, .memorySize v ∉ cs) → b.memorySize = a.memorySize
  environment : (∀ v, .environment v ∉ cs) → b.environment = a.environment
  codeSha256 : (∀ v, .code v ∉ cs) → b.codeSha256 = a.codeSha256
  state : b.state = a.state
  version : b.version = a.version

theorem Untouched.cons {c : Change} {cs : List Change} {a b : Attributes}
    (rest : Untouched cs (apply c a) b) : Untouched (c :: cs) a b := by
  obtain ⟨runtime, handler, timeout, memory, environment, code, state, version⟩ := rest
  cases c <;> constructor <;> grind [apply]

theorem frameLaws : rules.FrameLaws Untouched where
  nil a := by constructor <;> intros <;> rfl
  cons := Untouched.cons

/-! ## Completion and the clock -/

structure Filled (d d' : Desired) : Prop where
  runtime : d'.runtime = d.runtime
  handler : d'.handler = d.handler
  role : d'.role = d.role
  code : d'.code = d.code
  timeout : Rules.KeptIfSet d.timeout d'.timeout
  memorySize : Rules.KeptIfSet d.memorySize d'.memorySize
  environment : d'.environment = d.environment

theorem filled_fill (d : Desired) : Filled d (fill d) where
  runtime := rfl
  handler := rfl
  role := rfl
  code := rfl
  timeout := .getD _ _
  memorySize := .getD _ _
  environment := rfl

theorem diff_materialize (d : Desired) : diff (fill d) (materialize (fill d)) = [] := by
  cases handler : d.handler <;> simp [diff, fill, materialize, Option.filter, handler]

theorem completionLaws : rules.CompletionLaws where
  fill_fill d := by simp [rules, fill]
  normalizeName_normalizeName := Text.trim_trim
  diff_materialize _ _ _ d _ := diff_materialize d

theorem clockLaws : rules.ClockLaws id id := .idle fun _ _ _ _ _ => rfl

end DesiredState.CloudFunction
