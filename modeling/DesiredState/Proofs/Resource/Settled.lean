import DesiredState.Proofs.Resource.Kind
import DesiredState.Proofs.Resource.TagPlan
import DesiredState.Reconcile.Engine

/-!
# Settled resources

What a specification makes of a hosted resource, as a function of the two.  Whoever made a part of
the way there already ends at the same resource, so it does not matter where a run broke off.

Contents:

* `Hosted.applyAll` — a hosted resource after several changes.
* `Spec.settledTags`, `Spec.settled` — the tags and the resource that a specification leads to.
* `Toward` — a resource on its way to the settled one.
* `Spec.intent` — a specification without what is known of the hosted resource.
* `Spec.Prepared` — a specification that is complete and was accepted.
-/

namespace DesiredState

variable {k : Kind}

/-! ## Several changes -/

def Hosted.applyAll (h : HostedOf k) (cs : List k.Change) : HostedOf k :=
  { h with attributes := k.rules.applyAll cs h.attributes }

namespace Hosted

@[simp] theorem applyAll_nil (h : HostedOf k) : h.applyAll [] = h := rfl

@[simp] theorem identifier_applyAll (h : HostedOf k) (cs : List k.Change) :
    (h.applyAll cs).identifier = h.identifier := rfl

end Hosted

/-! ## Where a specification leads -/

namespace Spec

/-- The tags that a specification makes of the current ones: its own are written over them, and for
functions only its own stay unless it has none. -/
def settledTags (s : Spec k) (current : Tags) : Tags :=
  if k = .cloudFunction ∧ s.shared.tags ≠ .empty then s.shared.tags
  else current.overwrite s.shared.tags

/-- What a specification makes of a hosted resource. -/
def settled (s : Spec k) (h : HostedOf k) : HostedOf k :=
  { h.applyAll (s.diff h) with tags := s.settledTags h.tags }

theorem diff_settled (s : Spec k) (h : HostedOf k) : s.diff (s.settled h) = [] :=
  k.changeLaws.diff_applyAll_diff s.desired h.attributes

theorem settledTags_of_empty {s : Spec k} (none : s.shared.tags = .empty) (current : Tags) :
    s.settledTags current = current := by
  simp [settledTags, none]

theorem settledTags_settledTags (s : Spec k) (current : Tags) :
    s.settledTags (s.settledTags current) = s.settledTags current := by
  unfold settledTags
  split
  · rfl
  · apply Dict.ext_get?
    intro key
    rw [Dict.get?_overwrite, Dict.get?_overwrite]
    cases s.shared.tags.get? key <;> rfl

theorem settledTags_eq_goal {s : Spec k} (some : s.shared.tags ≠ .empty) (current : Tags) :
    s.settledTags current = TagPlan.goal k.rules.tagStrategy s.shared.tags current := by
  by_cases function : k = .cloudFunction <;>
    simp [settledTags, TagPlan.goal, Kind.tagStrategy_eq, function, some]

/-- Every desired tag is among the settled ones. -/
theorem get?_settledTags {s : Spec k} {key value : String}
    (desired : s.shared.tags.get? key = some value) (current : Tags) :
    (s.settledTags current).get? key = some value := by
  unfold settledTags
  split
  · exact desired
  · rw [Dict.get?_overwrite, desired, Option.some_or]

/-! ## Plans -/

/-- The plan of a hosted resource leads to the settled tags. -/
theorem result_tagPlan {s : Spec k} (known : s.identifier ≠ "") (current : Tags) :
    (Engine.tagPlan s current).result current = s.settledTags current := by
  by_cases none : s.shared.tags = .empty
  · simp [Engine.tagPlan, none, settledTags_of_empty, Dict.isEmpty_iff, TagPlan.result, TagPlan.empty]
  · rw [Engine.tagPlan, if_neg (by simp [Dict.isEmpty_iff, none, known]), TagPlan.result_of,
      settledTags_eq_goal none]

theorem tagPlan_settledTags (s : Spec k) (current : Tags) :
    Engine.tagPlan s (s.settledTags current) = .empty := by
  by_cases none : s.shared.tags = .empty
  · simp [Engine.tagPlan, none, Dict.isEmpty_iff]
  · rw [Engine.tagPlan]
    split
    · rfl
    · rw [settledTags_eq_goal none, TagPlan.of_goal]

/-- The writes of a plan without its removals do not move the settled tags. -/
theorem settledTags_overwrite_upsert (s : Spec k) (current : Tags) :
    s.settledTags (current.overwrite (Engine.tagPlan s current).upsert) =
      s.settledTags current := by
  rw [Engine.tagPlan]
  split
  · rfl
  next wanted =>
    have some : s.shared.tags ≠ .empty := by
      intro none
      simp [none, Dict.isEmpty_iff] at wanted
    rw [settledTags_eq_goal some, settledTags_eq_goal some]
    exact TagPlan.goal_overwrite_lacking ..

end Spec

/-! ## On the way -/

/-- A resource on its way to what a specification makes of another one. -/
structure Toward (s : Spec k) (h h' : HostedOf k) : Prop where
  identifier : h'.identifier = h.identifier
  name : h'.name = h.name
  settled : s.settled h' = s.settled h

namespace Toward

variable {s : Spec k} {h h' h'' : HostedOf k}

theorem trans (first : Toward s h h') (second : Toward s h' h'') : Toward s h h'' where
  identifier := second.identifier.trans first.identifier
  name := second.name.trans first.name
  settled := second.settled.trans first.settled

theorem applyAll {cs : List k.Change} (part : cs.Sublist (s.diff h)) :
    Toward s h (h.applyAll cs) where
  identifier := rfl
  name := rfl
  settled := by
    have same := k.changeLaws.applyAll_diff_applyAll part
    simp only [Spec.settled, Hosted.applyAll, Spec.diff] at same ⊢
    rw [same]

theorem withTags {tags : Tags} (same : s.settledTags tags = s.settledTags h.tags) :
    Toward s h { h with tags := tags } where
  identifier := rfl
  name := rfl
  settled := by simp only [Spec.settled, Hosted.applyAll, Spec.diff, same]

end Toward

/-! ## Intents -/

namespace Spec

/-- What a specification asks for, without what is known of the hosted resource and without the time
of the last sync. -/
def intent (s : Spec k) : Spec k :=
  { s with
    shared := { s.shared with identifier := "", lastSyncTime := none }
    observed := k.rules.unobserved }

variable {s t : Spec k}

theorem name_eq_of_intent (same : s.intent = t.intent) : s.name = t.name :=
  congrArg (·.name) same

theorem desired_eq_of_intent (same : s.intent = t.intent) : s.desired = t.desired :=
  congrArg (·.desired) same

theorem tags_eq_of_intent (same : s.intent = t.intent) : s.shared.tags = t.shared.tags :=
  congrArg (·.shared.tags) same

theorem deletionPolicy_eq_of_intent (same : s.intent = t.intent) :
    s.shared.deletionPolicy = t.shared.deletionPolicy :=
  congrArg (·.shared.deletionPolicy) same

theorem diff_eq_of_intent (same : s.intent = t.intent) : s.diff = t.diff := by
  funext h
  rw [diff, diff, desired_eq_of_intent same]

theorem settledTags_eq_of_intent (same : s.intent = t.intent) : s.settledTags = t.settledTags := by
  funext current
  simp only [settledTags, tags_eq_of_intent same]

theorem settled_eq_of_intent (same : s.intent = t.intent) : s.settled = t.settled := by
  funext h
  simp only [settled, diff_eq_of_intent same, settledTags_eq_of_intent same]

end Spec

/-! ## Prepared specifications -/

/-- A specification that is complete and was accepted. -/
structure Spec.Prepared (s : Spec k) : Prop where
  complete : s.complete = s
  accepted : s.accept = .ok ()

namespace Spec

theorem complete_complete (s : Spec k) : s.complete.complete = s.complete := by
  simp only [complete, normalize, declarePolicy, Option.getD_some,
    k.completionLaws.fill_fill, k.completionLaws.normalizeName_normalizeName]

theorem prepared_prepare {s : Spec k} (accepted : s.prepare.2 = .ok ()) : s.prepare.1.Prepared :=
  ⟨complete_complete s, accepted⟩

theorem Prepared.prepare_eq {s : Spec k} (prepared : s.Prepared) : s.prepare = (s, .ok ()) := by
  rw [prepare, prepared.complete, prepared.accepted]

/-- Acceptance looks at name, settings and policy only. -/
theorem accept_congr {s t : Spec k} (name : t.name = s.name) (desired : t.desired = s.desired)
    (policy : t.shared.deletionPolicy = s.shared.deletionPolicy) : t.accept = s.accept := by
  simp only [accept, effectivePolicy, validate, name, desired, policy]

/-- Whether a specification is prepared does not depend on what is known of the resource. -/
theorem Prepared.of_intent {s t : Spec k} (prepared : s.Prepared) (same : t.intent = s.intent) :
    t.Prepared := by
  obtain ⟨complete, accepted⟩ := prepared
  have name := name_eq_of_intent same
  have desired := desired_eq_of_intent same
  have policy := deletionPolicy_eq_of_intent same
  constructor
  -- Completion touches the name, the desired settings and the policy, and all three are intended.
  · have normalName : k.rules.normalizeName s.name = s.name := congrArg (·.name) complete
    have filled : k.rules.fill s.desired = s.desired := congrArg (·.desired) complete
    have declared : some (s.shared.deletionPolicy.getD k.rules.defaultPolicy.label) =
        s.shared.deletionPolicy := congrArg (·.shared.deletionPolicy) complete
    simp only [Spec.complete, normalize, declarePolicy, name, desired, policy, normalName, filled,
      declared]
    rw [← name, ← desired, ← policy]
  · rw [accept_congr name desired policy, accepted]

/-- What follows the creation of a resource is what the new resource lacks. -/
theorem Prepared.diff_materialize {s : Spec k} (prepared : s.Prepared) (now : Instant)
    (identifier : String) : s.diff (s.materialize now identifier) = s.postCreate := by
  obtain ⟨complete, accepted⟩ := prepared
  have filled : k.rules.fill s.desired = s.desired := congrArg (·.desired) complete
  -- The law asks for a validated specification, and validation is a part of acceptance.
  have valid : k.rules.validate s.name s.desired = .ok () := by
    cases checked : k.rules.validate s.name s.desired with
    | ok _ => rfl
    | error v =>
      cases policy : s.effectivePolicy <;>
        simp [accept, validate, policy, checked, Except.mapError, bind, Except.bind] at accepted
  have same := k.completionLaws.diff_materialize now identifier s.name s.desired
  rw [filled] at same
  exact same valid

end Spec

end DesiredState
