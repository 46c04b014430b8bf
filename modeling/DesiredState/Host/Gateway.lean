import DesiredState.Host.Operation
import DesiredState.Resource.Spec

/-!
# Gateways

What the engine needs of a host of resources of one kind.

Contents:

* `Request`: a request to a host with a state of its own.
* `Gateway`: the requests of one kind.
* `Gateway.withoutOptional`, `Gateway.withBlankCreate`: gateways that do less.
-/

namespace DesiredState

/-- A request: its answer or a refusal, and the state of the host after it. -/
abbrev Request (σ α : Type) := σ → Except GatewayError α × σ

/-- A request that is refused without reaching the host. -/
def Request.refused (e : GatewayError) : Request σ α := fun w => (.error e, w)

/-- The requests to a host of resources of one kind. -/
structure Gateway (k : Kind) (σ : Type) where
  /-- Whether something is hosted under an identifier or a name. -/
  presence : String → Request σ Bool
  /-- Hosts the resource; the answer knows its identifier and what is observed of it. -/
  create : Spec k → Request σ (Spec k)
  /-- The resource hosted under an identifier or a name. -/
  get : String → Request σ (HostedOf k)
  /-- Makes one change. -/
  update : Spec k → k.Change → Request σ Unit
  /-- Removes what is hosted, after a final snapshot if one is named. -/
  delete : Spec k → Option String → Request σ Unit
  /-- Stops what is hosted. -/
  stop : Spec k → Request σ Unit
  /-- Adds or overwrites tags. -/
  tag : String → Tags → Request σ Unit
  /-- Removes tags. -/
  untag : String → List String → Request σ Unit

namespace Gateway

variable {k : Kind} {σ : Type}

/-- The same host, but stopping and the removal of tags are not offered. -/
def withoutOptional (g : Gateway k σ) : Gateway k σ :=
  { g with
    stop := fun _ => .refused (.unsupported .stop)
    untag := fun _ _ => .refused (.unsupported .untag) }

/-- The same host, but the identifier of what was created is not told. -/
def withBlankCreate (g : Gateway k σ) : Gateway k σ :=
  { g with create := fun s w =>
      match g.create s w with
      | (.ok s, w) => (.ok (s.withIdentifier ""), w)
      | r => r }

end Gateway

end DesiredState
