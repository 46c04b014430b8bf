import DesiredState.Proofs.Reconcile.Sync

/-!
# Without the clock

Two runs at different times cannot agree on the times that they write down.  Here these are taken
away from hosted resources and specifications, and what a sync makes of the rest does not depend on
the clock.

Contents:

* `Hosted.timeless`, `Spec.timeless` — resources and specifications without times.
* `Spec.diff_timeless`, `Spec.timeless_origin` — what is wanted, and where a sync begins.
* `Spec.timeless_settled`, `Spec.timeless_settled_origin` — where a sync leads, without times.
-/

namespace DesiredState

variable {k : Kind}

def Hosted.timeless (h : HostedOf k) : HostedOf k :=
  { h with attributes := k.timeless h.attributes }

/-- The specification without the time of the last sync and the times of the hosted resource. -/
def Spec.timeless (s : Spec k) : Spec k :=
  { s with
    shared := { s.shared with lastSyncTime := none }
    observed := k.timelessObserved s.observed }

namespace Spec

theorem diff_timeless (s : Spec k) (h : HostedOf k) : s.diff h.timeless = s.diff h :=
  k.clockLaws.diff_timeless s.desired h.attributes

theorem timeless_settled (s : Spec k) (h : HostedOf k) :
    (s.settled h).timeless = s.settled h.timeless := by
  have applied := k.clockLaws.applyAll_timeless (s.diff h) h.attributes
  simp only [settled, Hosted.applyAll, diff_timeless]
  simp only [Hosted.timeless, applied]

theorem timeless_materialize (s : Spec k) (clock clock' : Instant) (identifier : String) :
    (s.materialize clock identifier).timeless = (s.materialize clock' identifier).timeless := by
  simp only [Hosted.timeless, materialize]
  rw [k.clockLaws.materialize_timeless clock clock']

/-- Where a sync begins does not depend on the clock, except for the times of a new resource. -/
theorem timeless_origin (s : Spec k) (clock clock' : Instant) (w : Simulator k) :
    (s.origin clock w).timeless = (s.origin clock' w).timeless := by
  cases found : s.resource? w.toHost with
  | some h => rw [origin_of_resource? found, origin_of_resource? found]
  | none => rw [origin_of_missing found, origin_of_missing found, timeless_materialize s clock clock']

theorem identifier_origin (s : Spec k) (clock clock' : Instant) (w : Simulator k) :
    (s.origin clock w).identifier = (s.origin clock' w).identifier := by
  show (s.origin clock w).timeless.identifier = (s.origin clock' w).timeless.identifier
  rw [timeless_origin s clock clock']

/-- Where a sync leads does not depend on the clock, except for the times that are written down. -/
theorem timeless_settled_origin (s : Spec k) (clock clock' : Instant) (w : Simulator k) :
    (s.settled (s.origin clock w)).timeless = (s.settled (s.origin clock' w)).timeless := by
  rw [timeless_settled, timeless_settled, timeless_origin s clock clock']

/-- The specification after a sync depends on the resource without its times only. -/
theorem timeless_synced (s : Spec k) (now now' : Instant) {h h' : HostedOf k}
    (same : h.timeless = h'.timeless) : (s.synced now h).timeless = (s.synced now' h').timeless := by
  have identifier : h.identifier = h'.identifier := by
    show h.timeless.identifier = h'.timeless.identifier
    rw [same]
  have attributes : k.timeless h.attributes = k.timeless h'.attributes := by
    show h.timeless.attributes = h'.timeless.attributes
    rw [same]
  simp only [timeless, synced, k.clockLaws.observe_timeless, identifier, attributes]

end Spec

end DesiredState
