import DesiredState.Proofs.Reconcile.Convergence
import DesiredState.Proofs.Reconcile.Trace

/-!
# The order of calls

Which calls a sync makes, in which order, and what it makes of their answers.  This depends on the
answers alone, so it is shown for every gateway whose creation tells an identifier and keeps what is
desired, and whatever is hosted.

Contents:

* `Smooth`, `CutShort`, `Concluded` — the call that ends a sync is its last one.
* `Sought`, `Updated`, `Rounded` — the calls of each part of a sync.
* `Course`, `Opened`, `Disciplined` — the calls of a sync by their purpose, and what holds of them.
* `sync_disciplined` — the main result.
-/

namespace DesiredState

variable {k : Kind} {σ α β : Type}

/-! ## Calls that end a sync -/

/-- Failures of this call become warnings. -/
def Call.isBestEffort : Call k → Bool
  | .update _ c => k.rules.isBestEffort c
  | _ => false

/-- The failure that a call ends a sync with, if it does. -/
def Event.failure? (e : Event k) : Option Failure :=
  match e.reply with
  | .failed error =>
    if e.call.isBestEffort then none else some (.provider k.label e.call.operation error)
  | _ => none

/-- No call ends the sync. -/
def Smooth (events : List (Event k)) : Prop := ∀ e ∈ events, e.failure? = none

/-- The last call ends the sync with a failure, and no call before it does. -/
def CutShort (events : List (Event k)) (f : Failure) : Prop :=
  ∃ front e, events = front ++ [e] ∧ Smooth front ∧ e.failure? = some f

/-- An answer is what its calls make of it. -/
def Concluded (answer : Except Failure α) (events : List (Event k)) : Prop :=
  match answer with
  | .ok _ => Smooth events
  | .error f => CutShort events f

theorem Smooth.nil : Smooth ([] : List (Event k)) := nofun

theorem Smooth.append {first second : List (Event k)} (left : Smooth first) (right : Smooth second) :
    Smooth (first ++ second) := by
  intro e member
  rcases List.mem_append.mp member with member | member
  · exact left e member
  · exact right e member

theorem Smooth.singleton {e : Event k} (passes : e.failure? = none) : Smooth [e] := by
  intro e' member
  rwa [List.mem_singleton.mp member]

theorem CutShort.singleton {e : Event k} {f : Failure} (ends : e.failure? = some f) :
    CutShort [e] f :=
  ⟨[], e, rfl, .nil, ends⟩

theorem Concluded.append {answer : Except Failure α} {first second : List (Event k)}
    (smooth : Smooth first) (rest : Concluded answer second) : Concluded answer (first ++ second) := by
  cases answer with
  | ok _ => exact smooth.append rest
  | error f =>
    obtain ⟨front, e, rfl, before, ends⟩ := rest
    exact ⟨first ++ front, e, (List.append_assoc ..).symm, smooth.append before, ends⟩

/-- There is at most one call, and it is one of this operation. -/
def AtMostOne (op : Operation) (events : List (Event k)) : Prop :=
  events.length ≤ 1 ∧ ∀ e ∈ events, e.call.operation = op

theorem AtMostOne.nil {op : Operation} : AtMostOne op ([] : List (Event k)) := ⟨Nat.zero_le _, nofun⟩

theorem AtMostOne.singleton {e : Event k} : AtMostOne e.call.operation [e] := by
  refine ⟨Nat.le_refl _, fun e' member => ?_⟩
  rw [List.mem_singleton.mp member]

/-! ## The parts of a sync -/

/-- Creation tells an identifier and keeps what is desired. -/
def Gateway.Faithful (g : Gateway k σ) : Prop :=
  ∀ s w s' w', g.create s w = (.ok s', w') → s'.identifier ≠ "" ∧ s'.desired = s.desired

def Event.IsMiss (e : Event k) : Prop := ∃ key, e = ⟨.presence key, .absent⟩

/-- The presence checks and the reading while a resource is looked for: checks go on until one does
not answer that there is nothing, and what is present is read. -/
inductive Sought : Except Failure (Presence k) → List (Event k) → List (Event k) → Prop
  | refused {misses : List (Event k)} (only : ∀ e ∈ misses, e.IsMiss) (key : String)
      (error : GatewayError) :
      Sought (.error (.provider k.label .presence error))
        (misses ++ [⟨.presence key, .failed error⟩]) []
  | unread {misses : List (Event k)} (only : ∀ e ∈ misses, e.IsMiss) (key : String)
      (error : GatewayError) :
      Sought (.error (.provider k.label .get error)) (misses ++ [⟨.presence key, .present⟩])
        [⟨.get key, .failed error⟩]
  | found {misses : List (Event k)} (only : ∀ e ∈ misses, e.IsMiss) (key : String)
      (current : HostedOf k) :
      Sought (.ok (.found current)) (misses ++ [⟨.presence key, .present⟩])
        [⟨.get key, .read current⟩]
  | missing {misses : List (Event k)} (only : ∀ e ∈ misses, e.IsMiss) (some : misses ≠ [])
      (drifted : Bool) : Sought (.ok (.missing drifted)) misses []

/-- The updates of a sync: a beginning of the list that is to be made. -/
structure Updated (identifier : String) (cs : List k.Change)
    (answer : Except Failure (List k.Change × List Warning)) (updates : List (Event k)) : Prop where
  calls : ∃ changes, changes <+: cs ∧ updates.map Event.call = changes.map (.update identifier)
  concluded : Concluded answer updates
  applied : ∀ made warnings, answer = .ok (made, warnings) →
    (made ≠ [] ↔ ∃ e ∈ updates, e.reply = .done)

/-- The calls at the end of a sync: the second reading, the tags that are added and removed. -/
structure Rounded (applied : List k.Change) (answer : Except Failure (SyncOutcome k))
    (second added removed : List (Event k)) : Prop where
  reread : second ≠ [] ↔ applied ≠ []
  rereads : AtMostOne .get second
  tags : AtMostOne .tag added
  untags : AtMostOne .untag removed
  concluded : Concluded answer (second ++ (added ++ removed))

theorem noMisses : ∀ e ∈ ([] : List (Event k)), e.IsMiss := nofun

namespace Run.Tells

variable {e : Engine k σ} {s : Spec k}

theorem locateByName {post : Except Failure (Presence k) → Spec k → List (Event k) → Prop}
    (sought : ∀ answer s' checks reads, s'.name = s.name → s'.desired = s.desired →
      Sought answer checks reads → ∀ events, events = checks ++ reads → post answer s' events) :
    (e.traced.locateByName).Tells s post := by
  have missed : ∀ e ∈ [(⟨.presence s.name, .absent⟩ : Event k)], e.IsMiss := by
    intro e member
    rw [List.mem_singleton.mp member]
    exact ⟨_, rfl⟩
  unfold Engine.locateByName
  refine bind (spec (bind (call (fun there => ?_) fun error => ?_)))
  · cases there with
    | false => exact pure (sought _ s _ [] rfl rfl (.missing missed (by simp) false) _ rfl)
    | true =>
      refine bind (call (fun current => ?_) fun error => ?_)
      · refine bind (modifySpec (pure ?_))
        exact sought _ (s.withIdentifier current.identifier) _ _ rfl rfl
          (.found noMisses s.name current) _ rfl
      · exact sought _ s _ _ rfl rfl (.unread noMisses s.name error) _ rfl
  · exact sought _ s _ [] rfl rfl (.refused noMisses s.name error) _ rfl

theorem locate {post : Except Failure (Presence k) → Spec k → List (Event k) → Prop}
    (sought : ∀ answer s' checks reads, s'.name = s.name → s'.desired = s.desired →
      Sought answer checks reads → ∀ events, events = checks ++ reads → post answer s' events) :
    (e.traced.locate).Tells s post := by
  unfold Engine.locate
  refine bind (spec ?_)
  dsimp only
  split
  · exact locateByName fun answer s' checks reads => sought answer s' checks reads
  · refine bind (call (fun there => ?_) fun error => ?_)
    · cases there with
      | true =>
        refine bind (call (fun current => ?_) fun error => ?_)
        · exact pure (sought _ s _ _ rfl rfl (.found noMisses s.identifier current) _ rfl)
        · exact sought _ s _ _ rfl rfl (.unread noMisses s.identifier error) _ rfl
      | false =>
        refine bind (modifySpec (bind (locateByName ?_)))
        rintro answer s' checks reads name desired found _ rfl
        -- The first check is one more miss before whatever the second one comes to.
        have more : ∀ misses : List (Event k), (∀ e ∈ misses, e.IsMiss) →
            ∀ e ∈ ⟨.presence s.identifier, .absent⟩ :: misses, e.IsMiss := by
          intro misses only e member
          rcases List.mem_cons.mp member with rfl | member
          · exact ⟨_, rfl⟩
          · exact only e member
        cases found with
        | refused only key error =>
          exact sought _ s' _ [] name desired (.refused (more _ only) key error) _ rfl
        | unread only key error =>
          exact sought _ s' _ _ name desired (.unread (more _ only) key error) _ rfl
        | found only key current =>
          exact pure (sought _ s' _ _ name desired (.found (more _ only) key current) _ (by simp))
        | missing only some _ =>
          exact pure (sought _ s' _ [] name desired (.missing (more _ only) (by simp) true) _ (by simp))
    · exact sought _ s _ [] rfl rfl (.refused noMisses s.identifier error) _ rfl

theorem applyOne {c : k.Change}
    {post : Except Failure (List k.Change × List Warning) → Spec k → List (Event k) → Prop}
    (updated : ∀ answer reply, Concluded answer [⟨.update s.identifier c, reply⟩] →
      (∀ made warnings, answer = .ok (made, warnings) → (made ≠ [] ↔ reply = .done)) →
      post answer s [⟨.update s.identifier c, reply⟩]) :
    (e.traced.applyOne c).Tells s post := by
  unfold Engine.applyOne
  refine bind (spec (tryCatch (bind (call (fun _ => ?_) fun error => ?_))))
  · refine pure (updated _ _ (.singleton rfl) ?_)
    rintro _ _ ⟨⟩
    simp
  · dsimp only
    split
    -- The failure of a best-effort change becomes a warning; any other one is thrown again, and
    -- then this call is the last.
    next tolerated =>
      have bestEffort : k.rules.isBestEffort c = true := by simp_all
      refine pure (updated _ _ (.singleton ?_) ?_)
      · simp [Event.failure?, Call.isBestEffort, bestEffort]
      · rintro _ _ ⟨⟩
        simp
    next fatal =>
      have needed : k.rules.isBestEffort c = false := by
        simpa [Failure.isCancelled] using fatal
      refine throw (updated _ _ (.singleton ?_) nofun)
      simp [Event.failure?, Call.isBestEffort, Call.operation, needed]

theorem applyAll {cs : List k.Change}
    {post : Except Failure (List k.Change × List Warning) → Spec k → List (Event k) → Prop}
    (updated : ∀ answer updates, Updated s.identifier cs answer updates → post answer s updates) :
    (e.traced.applyAll cs).Tells s post := by
  induction cs generalizing post with
  | nil =>
    refine pure (updated _ [] ⟨⟨[], List.prefix_rfl, rfl⟩, .nil, ?_⟩)
    rintro _ _ ⟨⟩
    simp
  | cons c cs inductionHypothesis =>
    unfold Engine.applyAll
    refine bind (applyOne ?_)
    intro answer reply concluded applied
    cases answer with
    | error f =>
      refine updated _ _ ⟨⟨[c], ⟨cs, rfl⟩, rfl⟩, concluded, ?_⟩
      rintro _ _ ⟨⟩
    | ok first =>
      obtain ⟨made, warnings⟩ := first
      refine bind (inductionHypothesis ?_)
      rintro answer updates ⟨⟨changes, start, calls⟩, concluded', applied'⟩
      have start' : c :: changes <+: c :: cs := List.cons_prefix_cons.mpr ⟨rfl, start⟩
      cases answer with
      | error f =>
        refine updated _ _ ⟨⟨c :: changes, start', ?_⟩, concluded'.append concluded, ?_⟩
        · simp [calls]
        · rintro _ _ ⟨⟩
      | ok rest =>
        obtain ⟨made', warnings'⟩ := rest
        refine pure ?_
        rw [List.append_nil]
        refine updated _ _ ⟨⟨c :: changes, start', ?_⟩, concluded'.append concluded, ?_⟩
        · simp [calls]
        -- Something was made here or later if and only if an update was answered here or later.
        · rintro _ _ ⟨⟩
          have here := applied made warnings rfl
          have there := applied' made' warnings' rfl
          rw [Ne, List.append_eq_nil_iff, not_and_or, ← Ne, ← Ne, here, there]
          simp

theorem settle_found {current : HostedOf k}
    {post : Except Failure (SyncAction × (List k.Change × List Warning) × Tags) → Spec k →
      List (Event k) → Prop}
    (worked : ∀ answer s' updates, Updated s.identifier (s.diff current)
      (answer.map fun a => a.2.1) updates → post answer s' updates) :
    (e.traced.settle (.found current)).Tells s post := by
  unfold Engine.settle Engine.converge
  refine bind (bind (modifySpec (bind (spec (applyAll ?_)))))
  intro answer updates updated
  cases answer with
  | error f => exact worked _ _ _ updated
  | ok made =>
    refine pure ?_
    rw [List.append_nil]
    exact worked (.ok (_, made, _)) _ _ updated

theorem settle_missing {drifted : Bool}
    {post : Except Failure (SyncAction × (List k.Change × List Warning) × Tags) → Spec k →
      List (Event k) → Prop}
    (faithful : e.gateway.Faithful)
    (uncreated : ∀ error s', post (.error (.provider k.label .create error)) s'
      [⟨.create s.name, .failed error⟩])
    (worked : ∀ answer s' identifier updates, Updated identifier s.postCreate
      (answer.map fun a => a.2.1) updates → post answer s' (⟨.create s.name, .done⟩ :: updates)) :
    (e.traced.settle (.missing drifted)).Tells s post := by
  unfold Engine.settle Engine.create
  refine bind (bind (spec (bind (callKeeping ?_ fun error => uncreated error s))))
  intro w created w' answered
  obtain ⟨known, desired⟩ := faithful s w created w' answered
  have told : ¬created.identifier.isEmpty = true := by simpa using known
  have changes : created.postCreate = s.postCreate := by
    rw [Spec.postCreate, Spec.postCreate, desired]
  refine bind (spec ?_)
  dsimp only
  rw [if_neg told, changes]
  refine applyAll fun answer updates updated => ?_
  cases answer with
  | error f => exact worked _ _ _ _ updated
  | ok made =>
    refine pure ?_
    simp only [List.append_nil]
    exact worked (.ok (_, made, _)) _ _ _ updated

theorem reconcileTags {current : Tags}
    {post : Except Failure TagPlan → Spec k → List (Event k) → Prop}
    (written : ∀ answer tags untags, AtMostOne .tag tags → AtMostOne .untag untags →
      Concluded answer (tags ++ untags) → post answer s (tags ++ untags)) :
    (e.traced.reconcileTags current).Tells s post := by
  unfold Engine.reconcileTags
  refine bind (spec ?_)
  dsimp only
  generalize Engine.tagPlan s current = plan
  -- The removals come after the writes if there are any, and by themselves if not.
  have removals : ∀ tags : List (Event k), AtMostOne .tag tags → Smooth tags →
      Run.Tells (if (!plan.remove.isEmpty) = true then do
          Engine.call .untag (e.traced.gateway.untag s.identifier plan.remove)
          Pure.pure plan
        else Pure.pure plan) s fun answer s' more => post answer s' (tags ++ more) := by
    intro tags few smooth
    split
    · refine bind (call (fun _ => ?_) fun error => ?_)
      · exact pure (written (.ok plan) tags _ few .singleton (smooth.append (.singleton rfl)))
      · exact written (.error _) tags _ few .singleton (.append smooth (.singleton rfl))
    · exact pure (written (.ok plan) tags [] few .nil (smooth.append .nil))
  split
  · refine bind (call (fun _ => ?_) fun error => ?_)
    · exact removals _ .singleton (.singleton rfl)
    · exact written (.error _) [⟨.tag s.identifier plan.upsert, .failed error⟩] [] .singleton .nil
        (.singleton rfl)
  · exact removals [] .nil .nil

theorem conclude {now : Instant} {action : SyncAction} {applied : List k.Change}
    {warnings : List Warning} {tags : Tags}
    {post : Except Failure (SyncOutcome k) → Spec k → List (Event k) → Prop}
    (rounded : ∀ answer s' rereads tags untags, Rounded applied answer rereads tags untags →
      post answer s' (rereads ++ (tags ++ untags))) :
    (e.traced.conclude now action applied warnings tags).Tells s post := by
  -- Whether there was a second reading or not, the tags and the time follow.
  have rest : ∀ (s : Spec k) (rereads : List (Event k)), (rereads ≠ [] ↔ applied ≠ []) →
      AtMostOne .get rereads → Smooth rereads →
      Run.Tells (do
        let plan ← e.traced.reconcileTags tags
        Engine.modifySpec fun s => { s with shared := { s.shared with lastSyncTime := some now } }
        Pure.pure (⟨action, applied, plan, warnings⟩ : SyncOutcome k)) s
        fun answer s' more => post answer s' (rereads ++ more) := by
    intro s rereads reread few smooth
    refine bind (reconcileTags fun answer written removed fewWritten fewRemoved concluded => ?_)
    cases answer with
    | error f =>
      exact rounded (.error f) s rereads written removed
        ⟨reread, few, fewWritten, fewRemoved, .append smooth concluded⟩
    | ok plan =>
      refine bind (modifySpec (pure ?_))
      simp only [List.append_nil]
      exact rounded (.ok _) _ rereads written removed
        ⟨reread, few, fewWritten, fewRemoved, .append smooth concluded⟩
  unfold Engine.conclude
  dsimp only
  split
  next some =>
    have applied' : applied ≠ [] := by simpa using some
    unfold Engine.refresh
    refine bind (bind (spec (bind (call (fun current => ?_) fun error => ?_))))
    · exact modifySpec (rest _ _ (by simp [applied']) .singleton (.singleton rfl))
    · exact rounded (.error _) s [⟨.get s.identifier, .failed error⟩] [] []
        ⟨by simp [applied'], .singleton, .nil, .nil, .singleton rfl⟩
  next none =>
    have applied' : applied = [] := by simpa using none
    exact rest s [] (by simp [applied']) .nil .nil

end Run.Tells

/-! ## The course of a sync -/

structure Course (k : Kind) where
  checks : List (Event k)
  reads : List (Event k)
  creates : List (Event k)
  updates : List (Event k)
  rereads : List (Event k)
  tags : List (Event k)
  untags : List (Event k)

namespace Course

def events (t : Course k) : List (Event k) :=
  t.checks ++ (t.reads ++ (t.creates ++ (t.updates ++ (t.rereads ++ (t.tags ++ t.untags)))))

/-- The changes that are to be made: what a found resource differs in, or what follows creation. -/
def due (t : Course k) (s : Spec k) : List k.Change :=
  match t.reads, t.creates with
  | [⟨_, .read current⟩], [] => s.diff current
  | [], [⟨_, .done⟩] => s.postCreate
  | _, _ => []

end Course

/-- What holds of the calls that look for a resource or create it: there is a presence check, and
creation is asked for under the name exactly when every presence check found nothing. -/
structure Opened (s : Spec k) (asked read made : List (Event k)) : Prop where
  checked : asked ≠ []
  checks : ∀ e ∈ asked, e.call.operation = .presence
  reads : AtMostOne .get read
  created : (∀ e ∈ asked, e.reply = .absent) → made.map Event.call = [.create s.name]
  uncreated : (∃ e ∈ asked, e.reply ≠ .absent) → made = []

/-- What holds of the calls of a sync of a prepared specification, and of its answer.  A call that
fails is the last one and its failure is the answer, best-effort updates apart. -/
structure Disciplined (s : Spec k) (t : Course k) (answer : Except Failure (SyncOutcome k)) : Prop
    extends Opened s t.checks t.reads t.creates where
  updates : ∃ identifier changes, t.updates.map Event.call = changes.map (.update identifier) ∧
    changes.Nodup ∧ changes <+: t.due s
  rereads : AtMostOne .get t.rereads
  reread : t.rereads ≠ [] ↔ (∃ e ∈ t.updates, e.reply = .done) ∧ Smooth t.updates
  tags : AtMostOne .tag t.tags
  untags : AtMostOne .untag t.untags
  concluded : Concluded answer t.events

theorem CutShort.not_smooth {events : List (Event k)} {f : Failure} (cut : CutShort events f) :
    ¬Smooth events := by
  obtain ⟨front, e, rfl, -, ends⟩ := cut
  intro smooth
  rw [smooth e (by simp)] at ends
  cases ends

/-- What is to be made names no change twice. -/
theorem Course.nodup_due {s : Spec k} (prepared : s.Prepared) (t : Course k) : (t.due s).Nodup := by
  unfold due
  split
  · exact k.changeLaws.nodup_diff _ _
  · rw [← prepared.diff_materialize .epoch ""]
    exact k.changeLaws.nodup_diff _ _
  · exact .nil

namespace Disciplined

variable {s : Spec k} {checks reads creates updates rereads tags untags : List (Event k)}

theorem stopped {f : Failure} (opened : Opened s checks reads creates)
    (cut : CutShort (checks ++ (reads ++ creates)) f) :
    Disciplined s ⟨checks, reads, creates, [], [], [], []⟩ (.error f) where
  toOpened := opened
  updates := ⟨"", [], rfl, .nil, List.nil_prefix⟩
  rereads := .nil
  reread := by simp
  tags := .nil
  untags := .nil
  concluded := by simpa [Course.events, Concluded] using cut

theorem interrupted {f : Failure} {identifier : String} (prepared : s.Prepared)
    (opened : Opened s checks reads creates) (smooth : Smooth (checks ++ (reads ++ creates)))
    (updated : Updated identifier (Course.due ⟨checks, reads, creates, updates, [], [], []⟩ s)
      (.error f) updates) :
    Disciplined s ⟨checks, reads, creates, updates, [], [], []⟩ (.error f) where
  toOpened := opened
  updates := by
    obtain ⟨changes, start, calls⟩ := updated.calls
    exact ⟨identifier, changes, calls, start.sublist.nodup (Course.nodup_due prepared _), start⟩
  rereads := .nil
  reread := by
    -- The update that failed is one of them, so nothing is read again.
    have cut : ¬Smooth updates := CutShort.not_smooth updated.concluded
    simp [cut]
  tags := .nil
  untags := .nil
  concluded := by simpa [Course.events, Concluded] using updated.concluded.append smooth

theorem rounded {identifier : String} {made : List k.Change} {warnings : List Warning}
    {answer : Except Failure (SyncOutcome k)} (prepared : s.Prepared)
    (opened : Opened s checks reads creates) (smooth : Smooth (checks ++ (reads ++ creates)))
    (updated : Updated identifier (Course.due ⟨checks, reads, creates, updates, [], [], []⟩ s)
      (.ok (made, warnings)) updates)
    (rounded : Rounded made answer rereads tags untags) :
    Disciplined s ⟨checks, reads, creates, updates, rereads, tags, untags⟩ answer where
  toOpened := opened
  updates := by
    obtain ⟨changes, start, calls⟩ := updated.calls
    exact ⟨identifier, changes, calls, start.sublist.nodup (Course.nodup_due prepared _), start⟩
  rereads := rounded.rereads
  reread := by
    have smooth' : Smooth updates := updated.concluded
    rw [rounded.reread, updated.applied made warnings rfl]
    simp [smooth']
  tags := rounded.tags
  untags := rounded.untags
  concluded := by
    have whole := Concluded.append (smooth.append updated.concluded) rounded.concluded
    simpa [Course.events] using whole

end Disciplined

theorem smooth_of_misses {misses : List (Event k)} (only : ∀ e ∈ misses, e.IsMiss) :
    Smooth misses := by
  intro e member
  obtain ⟨key, rfl⟩ := only e member
  rfl

/-- A presence check that did not find nothing is the last one, and nothing is created. -/
theorem Opened.of_hit {s : Spec k} {misses reads : List (Event k)} {key : String} {reply : Reply k}
    (only : ∀ e ∈ misses, e.IsMiss) (other : reply ≠ .absent) (few : AtMostOne .get reads) :
    Opened s (misses ++ [⟨.presence key, reply⟩]) reads [] where
  checked := by simp
  checks e member := by
    rcases List.mem_append.mp member with member | member
    · obtain ⟨key, rfl⟩ := only e member
      rfl
    · rw [List.mem_singleton.mp member]
      rfl
  reads := few
  created all := absurd (all _ (List.mem_append_right _ (List.mem_singleton.mpr rfl))) other
  uncreated _ := rfl

namespace Sought

variable {s : Spec k} {checks reads : List (Event k)}

theorem failed {f : Failure} (sought : Sought (.error f) checks reads) :
    Opened s checks reads [] ∧ CutShort (checks ++ reads) f := by
  cases sought with
  | refused only key error =>
    refine ⟨.of_hit only nofun .nil, _, _, List.append_nil _, smooth_of_misses only, rfl⟩
  | unread only key error =>
    refine ⟨.of_hit only nofun .singleton, _, _, rfl, ?_, rfl⟩
    exact (smooth_of_misses only).append (.singleton rfl)

theorem found_read {current : HostedOf k} (sought : Sought (.ok (.found current)) checks reads) :
    Opened s checks reads [] ∧ Smooth (checks ++ reads) ∧ ∃ key, reads = [⟨.get key, .read current⟩] := by
  cases sought with
  | found only key =>
    refine ⟨.of_hit only nofun .singleton, ?_, key, rfl⟩
    exact ((smooth_of_misses only).append (.singleton rfl)).append (.singleton rfl)

theorem missing_created {drifted : Bool} (sought : Sought (.ok (.missing drifted)) checks reads)
    (creates : List (Event k)) (named : creates.map Event.call = [.create s.name]) :
    Opened s checks [] creates ∧ Smooth checks ∧ reads = [] := by
  cases sought with
  | missing only some =>
    refine ⟨⟨some, ?_, .nil, fun _ => named, ?_⟩, smooth_of_misses only, rfl⟩
    · intro e member
      obtain ⟨key, rfl⟩ := only e member
      rfl
    · rintro ⟨e, member, other⟩
      obtain ⟨key, rfl⟩ := only e member
      exact absurd rfl other

end Sought

theorem Run.Tells.prepare {s : Spec k} {post : Except Failure Unit → Spec k → List (Event k) → Prop}
    (accepted : s.prepare.2 = .ok ()) (holds : post (.ok ()) s.prepare.1 []) :
    Run.Tells (σ := σ) Engine.prepare s post :=
  fun _ _ => .prepare accepted ⟨[], by simp, holds⟩

/-- The calls of a sync of an accepted specification are disciplined. -/
theorem Run.Tells.sync {e : Engine k σ} {s : Spec k} (faithful : e.gateway.Faithful) (now : Instant)
    (accepted : s.prepare.2 = .ok ()) :
    (e.traced.sync now).Tells s fun answer _ events =>
      ∃ t : Course k, events = t.events ∧ Disciplined s.prepare.1 t answer := by
  have prepared := Spec.prepared_prepare accepted
  rw [Engine.sync_eq]
  refine bind (prepare accepted (bind (locate ?_)))
  generalize s.prepare.1 = s at prepared
  rintro answer s' checks reads name desired sought _ rfl
  cases answer with
  | error f =>
    obtain ⟨opened, cut⟩ := sought.failed (s := s)
    exact ⟨⟨checks, reads, [], [], [], [], []⟩, by simp [Course.events],
      .stopped opened (by simpa using cut)⟩
  | ok presence =>
    cases presence with
    | found current =>
      obtain ⟨opened, smooth, key, rfl⟩ := sought.found_read (s := s)
      rw [← List.append_nil [_]] at smooth
      refine bind (settle_found fun answer s'' updates updated => ?_)
      have due : s'.diff current = s.diff current := by rw [Spec.diff, Spec.diff, desired]
      rw [due] at updated
      cases answer with
      | error f =>
        exact ⟨⟨checks, _, [], updates, [], [], []⟩, by simp [Course.events],
          .interrupted prepared opened smooth updated⟩
      | ok made =>
        refine conclude fun answer _ rereads tags untags rounded => ?_
        exact ⟨⟨checks, _, [], updates, rereads, tags, untags⟩, by simp [Course.events],
          .rounded prepared opened smooth updated rounded⟩
    | missing drifted =>
      refine bind (settle_missing faithful (fun error s'' => ?_) ?_)
      · -- Creation itself fails, and nothing comes after it.
        rw [name]
        obtain ⟨opened, smooth, rfl⟩ := sought.missing_created (s := s)
          [⟨.create s.name, .failed error⟩] rfl
        exact ⟨⟨checks, [], _, [], [], [], []⟩, by simp [Course.events],
          .stopped opened ⟨checks, _, rfl, smooth, rfl⟩⟩
      · intro answer s'' identifier updates updated
        obtain ⟨opened, smooth, rfl⟩ := sought.missing_created (s := s)
          [⟨.create s.name, .done⟩] rfl
        have smooth : Smooth (checks ++ ([] ++ [⟨.create s.name, .done⟩])) :=
          smooth.append (.singleton rfl)
        have due : s'.postCreate = s.postCreate := by rw [Spec.postCreate, Spec.postCreate, desired]
        rw [due] at updated
        rw [name]
        cases answer with
        | error f =>
          exact ⟨⟨checks, [], _, updates, [], [], []⟩, by simp [Course.events],
            .interrupted prepared opened smooth updated⟩
        | ok made =>
          refine conclude fun answer _ rereads tags untags rounded => ?_
          exact ⟨⟨checks, [], _, updates, rereads, tags, untags⟩, by simp [Course.events],
            .rounded prepared opened smooth updated rounded⟩

/-! ## Simulated hosts -/

/-- Simulated hosts tell the identifier of what they create. -/
theorem faithful_gateway (k : Kind) (clock : Instant) : (Simulator.gateway k clock).Faithful := by
  intro s w s' w' created
  cases pending : w.faults .create with
  | some e =>
    rw [show (Simulator.gateway k clock).create s w = _ from
      Simulator.enter_of_fault (c := .create s.name) pending] at created
    cases created
  | none =>
    rw [show (Simulator.gateway k clock).create s w = _ from
      Simulator.enter_of_quiet (c := .create s.name) pending, Simulator.host] at created
    split at created
    · cases created
    · obtain rfl := Except.ok.inj (Prod.mk.inj created).1
      exact ⟨k.identifier_ne_empty _, rfl⟩

/-- A sync over a simulated host ends, and the calls that the host writes down are none if the
specification is refused, and disciplined otherwise.  The answers to the calls are those that a
gateway records over the same run. -/
theorem sync_disciplined (settings : RunSettings) (clock now : Instant) (s : Spec k)
    (w : Simulator k) :
    ∃ answer s' w' events,
      ((settings.engine clock k).sync now).run ⟨s, w, .live⟩ = (answer, ⟨s', w', .live⟩) ∧
      ((settings.engine clock k).traced.sync now).run ⟨s, (w, []), .live⟩ =
        (answer, ⟨s', (w', events), .live⟩) ∧
      w'.journal = w.journal ++ events.map Event.call ∧
      (∀ v, s.prepare.2 = .error v → answer = .error (.validation v) ∧ events = [] ∧ w' = w) ∧
      (s.prepare.2 = .ok () →
        ∃ t : Course k, events = t.events ∧ Disciplined s.prepare.1 t answer) := by
  obtain ⟨answer, s', w', token, events, ran, traced, journal⟩ :=
    run_sync_traced settings clock now s w .live
  cases verdict : s.prepare.2 with
  | error v =>
    have refused : ((settings.engine clock k).sync now).Ensures s w _ :=
      Run.Ensures.sync_refused verdict
    obtain ⟨_, _, _, ran', rfl, -, rfl⟩ := refused
    cases ran.symm.trans ran'
    refine ⟨_, s', w', events, ran, traced, journal, ?_, nofun⟩
    rintro _ ⟨⟩
    refine ⟨rfl, ?_, rfl⟩
    simpa using journal
  | ok =>
    obtain ⟨_, _, ⟨_, _⟩, traced', more, rfl, t, rfl, disciplined⟩ :=
      Run.Tells.sync (e := settings.engine clock k) (faithful_gateway k clock) now verdict w []
    cases traced.symm.trans traced'
    exact ⟨answer, s', w', t.events, ran, traced, journal, nofun, fun _ => ⟨t, rfl, disciplined⟩⟩

end DesiredState
