import DesiredState.Proofs.Record.Runs
import DesiredState.Proofs.Text.Trim

/-!
# Names of accepted resources

Names are compared in their usual form.  For every kind but one that form starts by cutting off the
blanks around the name, so names that differ in these blanks only are one name.  The names of servers
are taken as they are, and "web" and "web " are two of them.

Contents:

* `Kind.normalizeName_trim`, `Kind.normalizeName_congr` — blanks around a name do not count.
* `Manifest.normalized_names_apart` — what the search for repetitions compares.
* `Manifest.names_apart` — how the declared names of an accepted manifest differ.
-/

namespace DesiredState

/-! ## Usual forms -/

namespace Kind

variable {k : Kind}

theorem normalizeName_trim (trims : k ≠ .server) (name : String) :
    k.rules.normalizeName (Text.trim name) = k.rules.normalizeName name := by
  cases k with
  | server => exact absurd rfl trims
  | queue => exact Text.trim_trim name
  | database => exact congrArg Text.lowercase (Text.trim_trim name)
  | cryptoKey => simp [rules, CryptoKey.rules, CryptoKey.normalizeName, Text.trim_trim]
  | dnsZone => simp [rules, DnsZone.rules, DnsZone.normalizeName, Text.trim_trim]
  | cloudFunction => exact Text.trim_trim name
  | table => exact Text.trim_trim name

/-- Names that differ in the blanks around them only have one usual form. -/
theorem normalizeName_congr (trims : k ≠ .server) {name name' : String}
    (same : Text.trim name = Text.trim name') :
    k.rules.normalizeName name = k.rules.normalizeName name' := by
  rw [← normalizeName_trim trims name, same, normalizeName_trim trims]

end Kind

/-! ## Accepted manifests -/

namespace Manifest

variable {m : Manifest} {allowUntagged : Bool} {report : ValidationReport}

/-- The resources of an accepted manifest differ in kind or in the usual form of their names. -/
theorem normalized_names_apart (accepts : (m.validate allowUntagged).2 = .ok report) :
    m.resources.Pairwise fun r q =>
      r.kind = q.kind → r.kind.rules.normalizeName r.name ≠ q.kind.rules.normalizeName q.name := by
  have distinct := (accepted_of_validate (Prod.ext rfl accepts)).distinct
  -- The keys are those of the completed resources, whose names are in their usual form.
  rw [validate, prepareAll, List.map_map, List.Nodup, List.pairwise_map] at distinct
  exact distinct.imp fun apart kind name => apart (Prod.ext kind name)

/-- No two resources of one kind in an accepted manifest were declared under one name; and unless they
are servers, their names still differ once the blanks around them are cut off. -/
theorem names_apart (accepts : (m.validate allowUntagged).2 = .ok report) :
    m.resources.Pairwise fun r q => r.kind = q.kind →
      r.name ≠ q.name ∧ (r.kind ≠ .server → Text.trim r.name ≠ Text.trim q.name) := by
  refine (normalized_names_apart accepts).imp fun {r q} apart kind => ?_
  constructor
  · intro same
    apply apart kind
    rw [kind, same]
  · intro trims same
    apply apart kind
    rw [← kind]
    exact Kind.normalizeName_congr trims same

end Manifest

namespace Sample

def queue (name : String) : Resource :=
  ⟨.queue, .ofDesired .queue name ⟨false, none, none, none, none, none, none⟩⟩

def server (name : String) : Resource :=
  ⟨.server, .ofDesired .server name (Server.Desired.ofImage "t3.micro" "ami-1")⟩

/-- Two queues, one of them declared with blanks around its name, and two servers whose names differ
in a blank only. -/
def spaced : Manifest where
  defaultTags := .empty
  snapshotStem := "final"
  resources := [queue " jobs ", queue "mail", server "web", server "web "]

end Sample

namespace Manifest

/-- The two queues differ in more than blanks; of the two servers that is not said. -/
theorem names_apart_spaced :
    (Sample.spaced.validate true).2 = .ok ⟨4, []⟩ ∧
      Text.trim " jobs " ≠ Text.trim "mail" ∧ "web" ≠ "web " := by
  have accepts : (Sample.spaced.validate true).2 = .ok ⟨4, []⟩ := by decide +kernel
  have apart := names_apart accepts
  simp only [Sample.spaced, List.pairwise_cons, List.mem_cons, forall_eq_or_imp] at apart
  obtain ⟨⟨queues, -⟩, -, ⟨servers, -⟩, -⟩ := apart
  exact ⟨accepts, (queues rfl).2 (by decide), (servers rfl).1⟩

/-- Servers are accepted under names that differ in a blank at the end only. -/
theorem not_trimmed_names_apart :
    ¬∀ (m : Manifest) (allowUntagged : Bool) (report : ValidationReport),
      (m.validate allowUntagged).2 = .ok report →
        m.resources.Pairwise fun r q => r.kind = q.kind → Text.trim r.name ≠ Text.trim q.name := by
  intro apart
  have servers := apart Sample.spaced true ⟨4, []⟩ (by decide +kernel)
  simp only [Sample.spaced, List.pairwise_cons, List.mem_cons, forall_eq_or_imp] at servers
  obtain ⟨-, -, ⟨differ, -⟩, -⟩ := servers
  exact differ rfl (by decide +kernel)

end Manifest

end DesiredState
