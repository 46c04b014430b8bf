import DesiredState.Proofs.Record.Accord
import Mathlib.Data.List.DropRight

/-!
# Edits of the recorded state

A recorded state is edited in three ways: resources are recorded, a resource is forgotten, a run is added
to the history.  Nothing else gets lost, also if the state was read from a file in which resources are
repeated or the history is too long.

Contents:

* `Recorded`, `record_recorded` — what recording resources comes to.
* `Forgotten`, `forget_forgotten` — what forgetting one comes to.
* `Edit`, `Edit.applyAll` — edits in any order.
* `Edited`, `edits_keep` — what they come to.
-/

namespace DesiredState

open RecordedState (put maxHistory)

variable {s : RecordedState} {rs qs : List Resource} {r q : Resource} {key : Kind × String}

/-! ## Recording -/

theorem filter_put_self (qs : List Resource) (r : Resource) :
    (put qs r).filter (·.key = r.key) = [r] := by
  rw [put, List.filter_append, List.filter_filter, List.filter_cons_of_pos (by simp), List.filter_nil]
  have none : qs.filter (fun q => decide (q.key = r.key) && !r.sameAs q) = [] := by
    rw [List.filter_eq_nil_iff]
    intro q _ kept
    simp [← Resource.sameAs_iff] at kept
  rw [none, List.nil_append]

/-- A condition on keys that the new resource does not satisfy finds the resources that it found. -/
theorem filter_put_of_not {p : Kind × String → Prop} [DecidablePred p] (other : ¬p r.key)
    (qs : List Resource) : (put qs r).filter (fun q => p q.key) = qs.filter fun q => p q.key := by
  rw [put, List.filter_append, List.filter_filter, List.filter_cons_of_neg (by simpa using other),
    List.filter_nil, List.append_nil]
  refine List.filter_congr fun q _ => ?_
  by_cases same : q.key = r.key
  · simp [same, other]
  · have apart : r.sameAs q = false := by
      rw [Bool.eq_false_iff]
      exact mt Resource.sameAs_iff.mp same
    simp [apart]

theorem filter_foldl_put_of_not {p : Kind × String → Prop} [DecidablePred p]
    (others : ∀ r ∈ rs, ¬p r.key) (qs : List Resource) :
    (rs.foldl put qs).filter (fun q => p q.key) = qs.filter fun q => p q.key := by
  induction rs generalizing qs with
  | nil => rfl
  | cons r rs inductionHypothesis =>
    obtain ⟨other, others⟩ := List.forall_mem_cons.mp others
    rw [List.foldl_cons, inductionHypothesis others, filter_put_of_not other]

/-- Of the resources of one key that are recorded one after the other the last one is there, alone. -/
theorem filter_foldl_put_of_last {last : Resource}
    (latest : (rs.filter (·.key = key)).getLast? = some last) (qs : List Resource) :
    (rs.foldl put qs).filter (·.key = key) = [last] := by
  induction rs using List.reverseRecOn with
  | nil => cases latest
  | append_singleton rs r inductionHypothesis =>
    -- The resource recorded last is either the one that is sought or out of its way.
    rw [List.filter_append] at latest
    rw [List.foldl_append, List.foldl_cons, List.foldl_nil]
    by_cases own : r.key = key
    · rw [List.filter_cons_of_pos (by simpa using own), List.filter_nil, List.getLast?_concat,
        Option.some.injEq] at latest
      rw [← own, filter_put_self, latest]
    · rw [List.filter_cons_of_neg (by simpa using own), List.filter_nil, List.append_nil] at latest
      exact (filter_put_of_not (p := (· = key)) own _).trans (inductionHypothesis latest)

theorem nodup_foldl_put (distinct : (qs.map Resource.key).Nodup) (rs : List Resource) :
    ((rs.foldl put qs).map Resource.key).Nodup := by
  induction rs generalizing qs with
  | nil => exact distinct
  | cons r rs inductionHypothesis => exact inductionHypothesis (nodup_put distinct)

/-- What recording resources comes to: each key that was given is there once, with the last resource that
was given for it, and the resources of other keys are there in their order. -/
structure Recorded (s : RecordedState) (rs : List Resource) (s' : RecordedState) : Prop where
  given : ∀ r ∈ rs, ∃ last, (rs.filter (·.key = r.key)).getLast? = some last ∧
    s'.resources.filter (·.key = r.key) = [last]
  others : s'.resources.filter (fun q => q.key ∉ rs.map Resource.key) =
    s.resources.filter fun q => q.key ∉ rs.map Resource.key
  rest : s' = { s with resources := s'.resources, lastUpdated := s'.lastUpdated }

theorem record_recorded (s : RecordedState) (now : Instant) (rs : List Resource) :
    Recorded s rs (s.record now rs) where
  given r member := by
    have some : rs.filter (·.key = r.key) ≠ [] :=
      List.ne_nil_of_mem (List.mem_filter.mpr ⟨member, by simp⟩)
    have latest := List.getLast?_eq_some_getLast some
    exact ⟨_, latest, filter_foldl_put_of_last latest s.resources⟩
  others :=
    filter_foldl_put_of_not (p := (· ∉ rs.map Resource.key))
      (fun _ member apart => apart (List.mem_map_of_mem member)) s.resources
  rest := rfl

/-! ## Forgetting -/

/-- What forgetting a key comes to: its first resource is removed and answered, or there is none. -/
inductive Forgotten (s : RecordedState) (now : Instant) (key : Kind × String)
    (answer : Option Resource × RecordedState) : Prop
  | removed {front back : List Resource} {r : Resource} (resources : s.resources = front ++ r :: back)
    (own : r.key = key) (first : ∀ q ∈ front, q.key ≠ key)
    (eq : answer = (some r, { s with resources := front ++ back, lastUpdated := now }))
  | absent (nowhere : ∀ q ∈ s.resources, q.key ≠ key) (eq : answer = (none, s))

theorem forget_forgotten (s : RecordedState) (now : Instant) (kind : Kind) (name : String) :
    Forgotten s now (kind, name) (s.forget now kind name) := by
  unfold RecordedState.forget
  cases found : s.resources.find? (·.isNamed kind name) with
  | none =>
    refine .absent (fun q member own => ?_) rfl
    exact List.find?_eq_none.mp found q member (Resource.isNamed_iff.mpr own)
  | some r =>
    obtain ⟨named, front, back, resources, others⟩ := List.find?_eq_some_iff_append.mp found
    have first : ∀ q ∈ front, ¬q.isNamed kind name = true := by simpa using others
    refine .removed resources (Resource.isNamed_iff.mp named)
      (fun q member own => first q member (Resource.isNamed_iff.mpr own)) ?_
    rw [resources, List.eraseP_append_right _ first, List.eraseP_cons_of_pos named]

/-! ## Edits in any order -/

/-- An edit of the recorded state at some time. -/
inductive Edit
  | record (now : Instant) (rs : List Resource)
  | forget (now : Instant) (kind : Kind) (name : String)
  | addHistory (now : Instant) (e : HistoryEntry)

namespace Edit

def apply (s : RecordedState) : Edit → RecordedState
  | record now rs => s.record now rs
  | forget now kind name => (s.forget now kind name).2
  | addHistory now e => s.addHistory now e

/-- The run that an edit adds to the history. -/
def entry? : Edit → Option HistoryEntry
  | addHistory _ e => some e
  | _ => none

/-- The keys that an edit is about. -/
def keys : Edit → List (Kind × String)
  | record _ rs => rs.map Resource.key
  | forget _ kind name => [(kind, name)]
  | addHistory _ _ => []

/-! ### One edit -/

theorem nodup_apply (distinct : (s.resources.map Resource.key).Nodup) (d : Edit) :
    ((d.apply s).resources.map Resource.key).Nodup := by
  cases d with
  | record now rs => exact nodup_foldl_put distinct rs
  | forget now kind name =>
    rw [apply]
    cases forget_forgotten s now kind name with
    | @removed front back r resources _ _ eq =>
      have fewer : (front ++ back).Sublist s.resources := by
        rw [resources]
        exact (List.sublist_cons_self r back).append_left front
      rw [eq]
      exact (fewer.map Resource.key).nodup distinct
    | absent _ eq =>
      rw [eq]
      exact distinct
  | addHistory now e => exact distinct

/-- An edit leaves the resources of other keys as they are, in their order. -/
theorem filter_apply_of_not {p : Kind × String → Prop} [DecidablePred p] (d : Edit)
    (others : ∀ key ∈ d.keys, ¬p key) (s : RecordedState) :
    (d.apply s).resources.filter (fun q => p q.key) = s.resources.filter fun q => p q.key := by
  cases d with
  | record now rs =>
    exact filter_foldl_put_of_not (fun r member => others r.key (List.mem_map_of_mem member)) s.resources
  | forget now kind name =>
    have other : ¬p (kind, name) := others _ (.head _)
    rw [apply]
    cases forget_forgotten s now kind name with
    | @removed front back r resources own first eq =>
      rw [eq, resources, List.filter_append, List.filter_append,
        List.filter_cons_of_neg (by simpa [own] using other)]
    | absent _ eq => rw [eq]
  | addHistory now e => rfl

theorem history_apply (d : Edit) (s : RecordedState) :
    (d.apply s).history =
      match d.entry? with
      | some e => (s.history ++ [e]).rtake maxHistory
      | none => s.history := by
  cases d with
  | record now rs => rfl
  | forget now kind name =>
    rw [apply]
    cases forget_forgotten s now kind name with
    | removed _ _ _ eq => rw [eq]; rfl
    | absent _ eq => rw [eq]; rfl
  | addHistory now e => rfl

/-- Edits are about resources and history only. -/
theorem rest_apply (d : Edit) (s : RecordedState) :
    (d.apply s).version = s.version ∧ (d.apply s).provider = s.provider := by
  cases d with
  | record now rs => exact ⟨rfl, rfl⟩
  | forget now kind name =>
    rw [apply]
    cases forget_forgotten s now kind name with
    | removed _ _ _ eq => rw [eq]; exact ⟨rfl, rfl⟩
    | absent _ eq => rw [eq]; exact ⟨rfl, rfl⟩
  | addHistory now e => exact ⟨rfl, rfl⟩

/-! ### Several edits -/

/-- The state after several edits. -/
def applyAll (s : RecordedState) (ds : List Edit) : RecordedState := ds.foldl (fun s d => d.apply s) s

/-- The runs that several edits add to the history. -/
def added (ds : List Edit) : List HistoryEntry := ds.filterMap entry?

theorem nodup_applyAll (distinct : (s.resources.map Resource.key).Nodup) (ds : List Edit) :
    ((applyAll s ds).resources.map Resource.key).Nodup := by
  induction ds generalizing s with
  | nil => exact distinct
  | cons d ds inductionHypothesis => exact inductionHypothesis (nodup_apply distinct d)

theorem filter_applyAll_of_not {p : Kind × String → Prop} [DecidablePred p] {ds : List Edit}
    (others : ∀ key ∈ ds.flatMap keys, ¬p key) (s : RecordedState) :
    (applyAll s ds).resources.filter (fun q => p q.key) = s.resources.filter fun q => p q.key := by
  induction ds generalizing s with
  | nil => rfl
  | cons d ds inductionHypothesis =>
    rw [List.flatMap_cons, List.forall_mem_append] at others
    exact (inductionHypothesis others.2 _).trans (filter_apply_of_not d others.1 s)

theorem rtake_rtake_append {α : Type} (front back : List α) (n : Nat) :
    (front.rtake n ++ back).rtake n = (front ++ back).rtake n := by
  have longer : n - back.length ≤ n := Nat.sub_le n back.length
  simp only [List.rtake_eq_reverse_take_reverse, List.reverse_append, List.reverse_reverse,
    List.take_append, List.take_take, List.length_reverse, Nat.min_eq_left longer]

theorem added_cons_of_entry {d : Edit} {e : HistoryEntry} (entry : d.entry? = some e) (ds : List Edit) :
    added (d :: ds) = e :: added ds := List.filterMap_cons_some entry

theorem added_cons_of_no_entry {d : Edit} (no_entry : d.entry? = none) (ds : List Edit) :
    added (d :: ds) = added ds := List.filterMap_cons_none no_entry

/-- Without a new run the history stays as it is. -/
theorem history_applyAll_of_added_eq_nil {ds : List Edit} (nothing : added ds = []) (s : RecordedState) :
    (applyAll s ds).history = s.history := by
  induction ds generalizing s with
  | nil => rfl
  | cons d ds inductionHypothesis =>
    cases entry : d.entry? with
    | none =>
      rw [added_cons_of_no_entry entry] at nothing
      have step := history_apply d s
      rw [entry] at step
      exact (inductionHypothesis nothing _).trans step
    | some e => simp [added_cons_of_entry entry] at nothing

/-- The first new run cuts the history to its bound, and each later one cuts what was left. -/
theorem history_applyAll {ds : List Edit} (something : added ds ≠ []) (s : RecordedState) :
    (applyAll s ds).history = (s.history ++ added ds).rtake maxHistory := by
  induction ds generalizing s with
  | nil => exact absurd rfl something
  | cons d ds inductionHypothesis =>
    have step := history_apply d s
    cases entry : d.entry? with
    | none =>
      rw [added_cons_of_no_entry entry] at something ⊢
      rw [entry] at step
      exact (inductionHypothesis something _).trans (by rw [step])
    | some e =>
      rw [added_cons_of_entry entry]
      rw [entry] at step
      -- This run may be the last one; otherwise the next one cuts what this one has left.
      by_cases last : added ds = []
      · rw [last]
        exact (history_applyAll_of_added_eq_nil last _).trans step
      · calc (applyAll (d.apply s) ds).history
            = ((d.apply s).history ++ added ds).rtake maxHistory := inductionHypothesis last _
          _ = ((s.history ++ [e]).rtake maxHistory ++ added ds).rtake maxHistory := by rw [step]
          _ = (s.history ++ e :: added ds).rtake maxHistory := by
            rw [rtake_rtake_append, List.append_assoc, List.singleton_append]

theorem rest_applyAll (ds : List Edit) (s : RecordedState) :
    (applyAll s ds).version = s.version ∧ (applyAll s ds).provider = s.provider := by
  induction ds generalizing s with
  | nil => exact ⟨rfl, rfl⟩
  | cons d ds inductionHypothesis =>
    obtain ⟨version, provider⟩ := inductionHypothesis (d.apply s)
    exact ⟨version.trans (rest_apply d s).1, provider.trans (rest_apply d s).2⟩

end Edit

theorem rtake_suffix {α : Type} (l : List α) (n : Nat) : l.rtake n <:+ l := List.drop_suffix _ l

theorem length_rtake {α : Type} (l : List α) (n : Nat) : (l.rtake n).length = min n l.length := by
  rw [List.rtake, List.length_drop]
  omega

/-- What several edits come to. -/
structure Edited (s : RecordedState) (ds : List Edit) (s' : RecordedState) : Prop where
  /-- Resources do not get repeated. -/
  distinct : (s.resources.map Resource.key).Nodup → (s'.resources.map Resource.key).Nodup
  /-- The resources that no edit was about are there in their order, as often as they were. -/
  others : s'.resources.filter (fun q => q.key ∉ ds.flatMap Edit.keys) =
    s.resources.filter fun q => q.key ∉ ds.flatMap Edit.keys
  /-- Once a run was added, the history is what is left of the old one and all new runs at its bound. -/
  history : Edit.added ds ≠ [] → s'.history <:+ s.history ++ Edit.added ds ∧
    s'.history.length = min maxHistory (s.history.length + (Edit.added ds).length)
  /-- Until then it is the old one. -/
  unwritten : Edit.added ds = [] → s'.history = s.history
  rest : s'.version = s.version ∧ s'.provider = s.provider

theorem edited_applyAll (s : RecordedState) (ds : List Edit) : Edited s ds (Edit.applyAll s ds) where
  distinct distinct := Edit.nodup_applyAll distinct ds
  others :=
    Edit.filter_applyAll_of_not (p := (· ∉ ds.flatMap Edit.keys))
      (fun _ member apart => apart member) s
  history something := by
    rw [Edit.history_applyAll something]
    exact ⟨rtake_suffix _ _, by rw [length_rtake, List.length_append]⟩
  unwritten nothing := Edit.history_applyAll_of_added_eq_nil nothing s
  rest := Edit.rest_applyAll ds s

/-- Recording and forgetting change what they are about and keep the rest, whatever the state was; in any
order, together with runs that are added, they repeat no resource and lose none that they are not about,
and the history keeps its last runs. -/
theorem edits_keep (s : RecordedState) :
    (∀ now rs, Recorded s rs (s.record now rs)) ∧
    (∀ now kind name, Forgotten s now (kind, name) (s.forget now kind name)) ∧
    ∀ ds, Edited s ds (Edit.applyAll s ds) :=
  ⟨record_recorded s, forget_forgotten s, edited_applyAll s⟩

end DesiredState
