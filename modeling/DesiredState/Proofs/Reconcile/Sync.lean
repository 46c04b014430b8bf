import DesiredState.Proofs.Reconcile.Parts

/-!
# What a sync does

A sync of an accepted specification on a consistent host either did everything, and then the outcome
is a function of where it began; or a fault struck, and then it stopped on the way to that outcome.

Contents:

* `Engine.conclude`, `Engine.sync_eq` — the last part of a sync by itself.
* `Spec.origin`, `Spec.leaves`, `Spec.synced` — where a sync begins, and what it leaves behind.
* `Finished`, `Halfway` — the two ends of a sync.
* `Answered` — what a sync did that answers, perhaps with warnings.
* `Run.Ensures.sync` — there is no other end.
-/

namespace DesiredState

variable {k : Kind} {σ α : Type}

/-- The last part of a sync: the second reading if anything was changed, the tags, and the time. -/
def Engine.conclude (e : Engine k σ) (now : Instant) (action : SyncAction)
    (applied : List k.Change) (warnings : List Warning) (tags : Tags) : Run k σ (SyncOutcome k) := do
  if !applied.isEmpty then e.refresh
  let plan ← e.reconcileTags tags
  modifySpec fun s => { s with shared := { s.shared with lastSyncTime := some now } }
  pure ⟨action, applied, plan, warnings⟩

theorem Engine.sync_eq (e : Engine k σ) (now : Instant) :
    e.sync now = (do
      prepare
      let presence ← e.locate
      let (action, (applied, warnings), tags) ← e.settle presence
      e.conclude now action applied warnings tags) :=
  rfl

/-! ## Where a sync begins and where it ends -/

namespace Spec

/-- The resource that a sync begins with: the hosted one, or a new one. -/
def origin (s : Spec k) (clock : Instant) (w : Simulator k) : HostedOf k :=
  (s.resource? w.toHost).getD (s.materialize clock (k.identifier w.serial.next))

def nextSerial (s : Spec k) (w : Simulator k) : Numbering :=
  if (s.resource? w.toHost).isSome then w.serial else w.serial.succ

/-- The specification that a sync leaves, if it ends with a certain resource. -/
def synced (s : Spec k) (now : Instant) (h : HostedOf k) : Spec k :=
  { s with
    shared := { s.shared with identifier := h.identifier, lastSyncTime := some now }
    observed := k.rules.observe h.identifier h.attributes }

/-- The resource that a sync leaves which made some changes of another one and settled its tags. -/
def leaves (s : Spec k) (h : HostedOf k) (done : List k.Change) : HostedOf k :=
  { h.applyAll done with tags := s.settledTags h.tags }

variable {s t : Spec k} {w : Simulator k} {h : HostedOf k}

theorem origin_of_resource? (found : s.resource? w.toHost = some h) (clock : Instant) :
    s.origin clock w = h := by
  simp [origin, found]

theorem origin_of_missing (missing : s.resource? w.toHost = none) (clock : Instant) :
    s.origin clock w = s.materialize clock (k.identifier w.serial.next) := by
  simp [origin, missing]

theorem nextSerial_of_resource? (found : s.resource? w.toHost = some h) :
    s.nextSerial w = w.serial := by
  simp [nextSerial, found]

theorem nextSerial_of_missing (missing : s.resource? w.toHost = none) :
    s.nextSerial w = w.serial.succ := by
  simp [nextSerial, missing]

/-- Where a sync begins depends on the intent, on the resource found, and on the serial number. -/
theorem origin_congr {w' : Simulator k} (intent : t.intent = s.intent)
    (found : t.resource? w'.toHost = s.resource? w.toHost) (serial : w'.serial = w.serial)
    (clock : Instant) : t.origin clock w' = s.origin clock w := by
  rw [origin, origin, found, serial, materialize, materialize, name_eq_of_intent intent,
    desired_eq_of_intent intent]

theorem nextSerial_congr {w' : Simulator k} (found : t.resource? w'.toHost = s.resource? w.toHost)
    (serial : w'.serial = w.serial) : t.nextSerial w' = s.nextSerial w := by
  rw [nextSerial, nextSerial, found, serial]

theorem identifier_origin_ne_empty (consistent : Consistent w.hosted) (s : Spec k)
    (clock : Instant) : (s.origin clock w).identifier ≠ "" := by
  cases found : s.resource? w.toHost with
  | some h =>
    rw [origin_of_resource? found]
    exact (get?_of_resource? consistent found).1
  | none =>
    rw [origin_of_missing found]
    exact k.identifier_ne_empty w.serial.next

theorem synced_eq_of_intent (same : s.intent = t.intent) : s.synced = t.synced := by
  funext now h
  obtain ⟨name, desired, ⟨identifier, tags, policy, snapshot, time⟩, observed⟩ := s
  obtain ⟨name', desired', ⟨identifier', tags', policy', snapshot', time'⟩, observed'⟩ := t
  simp only [intent, Spec.mk.injEq, Meta.mk.injEq] at same
  obtain ⟨rfl, rfl, ⟨-, rfl, rfl, rfl, -⟩, -⟩ := same
  rfl

@[simp] theorem intent_synced (s : Spec k) (now : Instant) (h : HostedOf k) :
    (s.synced now h).intent = s.intent := rfl

end Spec

/-- A sync did everything, and its answer and what it leaves follow from where it began. -/
structure Finished (s : Spec k) (clock now : Instant) (w : Simulator k) (o : SyncOutcome k)
    (s' : Spec k) (w' : Simulator k) : Prop where
  warnings : o.warnings = []
  applied : o.applied = s.diff (s.origin clock w)
  spec : s' = s.synced now (s.settled (s.origin clock w))
  world : Made w (w.hosted.insert (s.origin clock w).identifier (s.settled (s.origin clock w)))
    (s.nextSerial w) w'

/-- What a sync did that answers: it attempted all changes, it missed those of which it warns, and
everything else follows from where it began. -/
structure Answered (s : Spec k) (clock now : Instant) (w : Simulator k) (o : SyncOutcome k)
    (s' : Spec k) (w' : Simulator k) : Prop where
  attempted : ∃ missed, Attempted (s.diff (s.origin clock w)) o.applied missed o.warnings
  spec : s' = s.synced now ((s.origin clock w).applyAll o.applied)
  hosted : w'.hosted = w.hosted.insert (s.origin clock w).identifier
    (s.leaves (s.origin clock w) o.applied)

theorem Finished.answered {s s' : Spec k} {clock now : Instant} {w w' : Simulator k}
    {o : SyncOutcome k} (finished : Finished s clock now w o s' w') :
    Answered s clock now w o s' w' := by
  obtain ⟨warnings, applied, spec, world⟩ := finished
  refine ⟨⟨[], ?_⟩, ?_, ?_⟩
  · rw [applied, warnings]
    exact .all _
  · rw [applied]
    exact spec
  · rw [applied]
    exact world.hosted

/-- A fault struck a sync before it changed anything on the host, or after. -/
inductive Halfway (s : Spec k) (clock : Instant) (w : Simulator k) (s' : Spec k)
    (w' : Simulator k) : Prop
  | waiting (looking : Looking s w.hosted s') (broken : Broken w w.hosted w.serial w')
  | begun (h : HostedOf k) (intent : s'.intent = s.intent)
      (identifier : s'.identifier = (s.origin clock w).identifier)
      (toward : Toward s (s.origin clock w) h)
      (broken : Broken w (w.hosted.insert (s.origin clock w).identifier h) (s.nextSerial w) w')

namespace Run.Ensures

variable {settings : RunSettings} {clock now : Instant} {s : Spec k} {w : Simulator k}
  {h : HostedOf k}

theorem prepare {w : σ} {post : Except Failure Unit → Spec k → σ → Prop}
    (accepted : s.prepare.2 = .ok ()) (holds : post (.ok ()) s.prepare.1 w) :
    Run.Ensures Engine.prepare s w post := by
  unfold Engine.prepare
  refine bind (spec (bind (modifySpec ?_)))
  have verdict : s.complete.accept = .ok () := accepted
  simp only [verdict]
  exact pure holds

/-- The last part of a sync.  A specification that knows what it would read again need not read. -/
theorem conclude {post : Except Failure (SyncOutcome k) → Spec k → Simulator k → Prop}
    {action : SyncAction} {applied : List k.Change} {warnings : List Warning}
    (known : s.identifier ≠ "") (there : w.hosted.get? s.identifier = some h)
    (seen : applied = [] → s.observe h = s)
    (broken : ∀ f s' tags w', s'.intent = s.intent → s'.identifier = s.identifier →
      s.settledTags tags = s.settledTags h.tags →
      Broken w (w.hosted.insert s.identifier { h with tags := tags }) w.serial w' →
      post (.error f) s' w')
    (made : ∀ plan w', Made w
      (w.hosted.insert s.identifier { h with tags := s.settledTags h.tags }) w.serial w' →
      ∀ s', s' = { s.observe h with shared := { s.shared with lastSyncTime := some now } } →
      post (.ok ⟨action, applied, plan, warnings⟩) s' w') :
    ((settings.engine clock k).conclude now action applied warnings h.tags).Ensures s w post := by
  -- Both branches come to the tags with a specification that knows the resource.
  have reconcile : ∀ w', Made w w.hosted w.serial w' → Run.Ensures (do
      let plan ← (settings.engine clock k).reconcileTags h.tags
      Engine.modifySpec fun s => { s with shared := { s.shared with lastSyncTime := some now } }
      Pure.pure ⟨action, applied, plan, warnings⟩) (s.observe h) w' post := by
    intro w' read
    have there' : w'.hosted.get? (s.observe h).identifier = some h := by
      rw [read.hosted]
      exact there
    refine bind (reconcileTags known there' ?_ ?_)
    · intro f tags w'' same refused
      exact broken f _ tags w'' rfl rfl same (read.insert_broken refused)
    · intro w'' wrote
      exact bind (modifySpec (pure (made _ w'' (read.insert wrote) _ rfl)))
  unfold Engine.conclude
  simp only []
  split
  next _ =>
    refine bind (refresh there ?_ reconcile)
    intro f w' refused
    refine broken f s h.tags w' rfl rfl rfl ?_
    rwa [Dict.insert_of_get? there]
  next nothing =>
    have same := reconcile w (.refl w)
    rw [seen (by simpa using nothing)] at same
    exact same

theorem settle_found
    {post : Except Failure (SyncAction × (List k.Change × List Warning) × Tags) → Spec k →
      Simulator k → Prop}
    (there : w.hosted.get? s.identifier = some h)
    (broken : ∀ f done w', done.Sublist (s.diff h) →
      Broken w (w.hosted.insert s.identifier (h.applyAll done)) w.serial w' →
      post (.error f) (s.observe h) w')
    (partly : ∀ action done missed warnings w', Attempted (s.diff h) done missed warnings →
      warnings ≠ [] → Broken w (w.hosted.insert s.identifier (h.applyAll done)) w.serial w' →
      post (.ok (action, (done, warnings), h.tags)) (s.observe h) w')
    (made : ∀ action w',
      Made w (w.hosted.insert s.identifier (h.applyAll (s.diff h))) w.serial w' →
      post (.ok (action, (s.diff h, []), h.tags)) (s.observe h) w') :
    ((settings.engine clock k).settle (.found h)).Ensures s w post := by
  have there' : w.hosted.get? (s.observe h).identifier = some h := there
  unfold Engine.settle Engine.converge
  refine bind (bind (modifySpec (bind (spec (applyAll there' broken ?_ ?_)))))
  · intro done missed warnings w' attempted some cut
    exact pure (partly _ done missed warnings w' attempted some cut)
  · exact fun w' done => pure (made _ w' done)

theorem settle_missing {drifted : Bool}
    {post : Except Failure (SyncAction × (List k.Change × List Warning) × Tags) → Spec k →
      Simulator k → Prop}
    (free : Host.find? w.hosted s.name = none)
    (fresh : h = s.materialize clock (k.identifier w.serial.next)) {s' : Spec k}
    (after : s' = (s.withIdentifier h.identifier).observe h)
    (refused : ∀ f w', Broken w w.hosted w.serial w' → post (.error f) s w')
    (broken : ∀ f done w', done.Sublist s.postCreate →
      Broken w (w.hosted.insert h.identifier (h.applyAll done)) w.serial.succ w' →
      post (.error f) s' w')
    (partly : ∀ action done missed warnings w', Attempted s.postCreate done missed warnings →
      warnings ≠ [] → Broken w (w.hosted.insert h.identifier (h.applyAll done)) w.serial.succ w' →
      post (.ok (action, (done, warnings), h.tags)) s' w')
    (made : ∀ action w',
      Made w (w.hosted.insert h.identifier (h.applyAll s.postCreate)) w.serial.succ w' →
      post (.ok (action, (s.postCreate, []), h.tags)) s' w') :
    ((settings.engine clock k).settle (.missing drifted)).Ensures s w post := by
  have identifier : h.identifier = k.identifier w.serial.next := by rw [fresh]; rfl
  have known : h.identifier ≠ "" := by
    rw [identifier]
    exact k.identifier_ne_empty w.serial.next
  have untagged : h.tags = .empty := by rw [fresh]; rfl
  unfold Engine.settle Engine.create
  refine bind (bind (spec (bind (create free refused ?_))))
  intro w' created s'' after'
  rw [← fresh, ← identifier] at created after'
  -- From here on the specification knows the new resource, which stands under its identifier.
  obtain rfl : s'' = s' := after'.trans after.symm
  have same : s''.identifier = h.identifier := by rw [after]; rfl
  have there : w'.hosted.get? s''.identifier = some h := by
    rw [created.hosted, same, Dict.get?_insert_self]
  have desired : s''.postCreate = s.postCreate := by rw [after]; rfl
  have told : ¬s''.identifier.isEmpty = true := by simpa [same] using known
  refine bind (spec ?_)
  dsimp only
  rw [if_neg told, desired]
  refine applyAll there ?_ ?_ ?_
  · intro f done w'' part cut
    rw [same] at cut
    exact broken f done w'' part (created.replace_broken cut)
  · intro done missed warnings w'' attempted some cut
    rw [same] at cut
    rw [← untagged]
    exact pure (partly _ done missed warnings w'' attempted some (created.replace_broken cut))
  · intro w'' done
    rw [same] at done
    rw [← untagged]
    exact pure (made _ w'' (created.replace done))

/-! ## The whole of a sync -/

/-- A sync did everything, or a fault struck and it says so. -/
def Ends (s : Spec k) (clock now : Instant) (w : Simulator k)
    (answer : Except Failure (SyncOutcome k)) (s' : Spec k) (w' : Simulator k) : Prop :=
  (∃ o, answer = .ok o ∧ Finished s clock now w o s' w') ∨
    (∀ o, answer = .ok o → o.warnings ≠ [] ∧ Answered s clock now w o s' w') ∧
      Halfway s clock w s' w'

theorem Ends.answered {o : SyncOutcome k} {s' : Spec k} {w' : Simulator k}
    (ends : Ends s clock now w (.ok o) s' w') : Answered s clock now w o s' w' := by
  rcases ends with ⟨_, ⟨⟩, finished⟩ | ⟨answers, -⟩
  · exact finished.answered
  · exact (answers o rfl).2

/-- The specification while its resource is being worked on. -/
structure Working (s : Spec k) (h : HostedOf k) (s' : Spec k) : Prop where
  intent : s'.intent = s.intent
  identifier : s'.identifier = h.identifier
  observed : s'.observed = k.rules.observe h.identifier h.attributes

theorem Working.observe_eq {s s' : Spec k} (working : Working s h s') : s'.observe h = s' := by
  rw [Spec.observe, ← working.observed]

/-- What looking for the resource came to. -/
inductive Located (s : Spec k) (w : Simulator k) : Presence k → Spec k → Prop
  | found {h : HostedOf k} {s' : Spec k} (found : s.resource? w.toHost = some h)
      (intent : s'.intent = s.intent) (identifier : s'.identifier = h.identifier) :
      Located s w (.found h) s'
  | missing {drifted : Bool} {s' : Spec k} (missing : s.resource? w.toHost = none)
      (intent : s'.intent = s.intent) (identifier : s'.identifier = "") :
      Located s w (.missing drifted) s'

/-- What work on the resource came to: some of the changes were made, all of them unless a fault
struck. -/
structure Worked (s : Spec k) (clock : Instant) (w : Simulator k) (done : List k.Change)
    (warnings : List Warning) (s' : Spec k) (w' : Simulator k) : Prop where
  working : Working s (s.origin clock w) s'
  attempted : ∃ missed, Attempted (s.diff (s.origin clock w)) done missed warnings
  hosted : w'.hosted =
    w.hosted.insert (s.origin clock w).identifier ((s.origin clock w).applyAll done)
  serial : w'.serial = s.nextSerial w
  spent : Spent w w'
  struck : warnings ≠ [] → Struck w w'

theorem settle {presence : Presence k} {s' : Spec k} (consistent : Consistent w.hosted)
    (prepared : s.Prepared) (located : Located s w presence s') :
    ((settings.engine clock k).settle presence).Ensures s' w fun
      | .ok (_, (done, warnings), tags), s'', w' =>
        tags = (s.origin clock w).tags ∧ Worked s clock w done warnings s'' w'
      | .error _, s'', w' => Halfway s clock w s'' w' := by
  cases located with
  | @found h s' found intent identifier =>
    obtain ⟨-, key⟩ := Spec.get?_of_resource? consistent found
    obtain rfl : s.origin clock w = h := Spec.origin_of_resource? found clock
    have serial : w.serial = s.nextSerial w := (Spec.nextSerial_of_resource? found).symm
    have working : Working s (s.origin clock w) (s'.observe (s.origin clock w)) :=
      ⟨intent, identifier, rfl⟩
    apply settle_found (identifier ▸ key)
    all_goals rw [identifier, serial, Spec.diff_eq_of_intent intent]
    · exact fun f done w' part cut => .begun _ intent identifier (.applyAll part) cut
    · intro action done missed warnings w' attempted some cut
      exact ⟨rfl, working, ⟨missed, attempted⟩, cut.hosted, cut.serial, cut.struck.spent,
        fun _ => cut.struck⟩
    · intro action w' done
      exact ⟨rfl, working, ⟨[], .all _⟩, done.hosted, done.serial, done.spent, nofun⟩
  | @missing drifted s' missing intent identifier =>
    obtain ⟨keyless, nameless⟩ := Option.or_eq_none_iff.mp missing
    have free : Host.find? w.hosted s'.name = none := by
      have present := Host.isSome_find? consistent s.name
      rw [Spec.name_eq_of_intent intent]
      simpa [nameless] using present
    have begins := Spec.origin_of_missing missing clock
    -- The specification may have lost its identifier, but what is created follows from the intent.
    have fresh : s.origin clock w = s'.materialize clock (k.identifier w.serial.next) := by
      rw [begins, Spec.materialize, Spec.materialize, Spec.name_eq_of_intent intent,
        Spec.desired_eq_of_intent intent]
    have changes : s'.postCreate = s.diff (s.origin clock w) := by
      rw [begins, prepared.diff_materialize, Spec.postCreate, Spec.postCreate,
        Spec.desired_eq_of_intent intent]
    have serial : w.serial.succ = s.nextSerial w := (Spec.nextSerial_of_missing missing).symm
    have working : Working s (s.origin clock w)
        ((s'.withIdentifier (s.origin clock w).identifier).observe (s.origin clock w)) :=
      ⟨intent, rfl, rfl⟩
    apply settle_missing free fresh rfl
    · intro f w' cut
      refine .waiting ⟨intent, ?_⟩ cut
      by_cases unknown : s.identifier = ""
      · exact .inl (identifier.trans unknown.symm)
      · exact .inr ⟨identifier, keyless⟩
    all_goals rw [serial, changes]
    · exact fun f done w' part cut => .begun _ intent rfl (.applyAll part) cut
    · intro action done missed warnings w' attempted some cut
      exact ⟨rfl, working, ⟨missed, attempted⟩, cut.hosted, cut.serial, cut.struck.spent,
        fun _ => cut.struck⟩
    · intro action w' done
      exact ⟨rfl, working, ⟨[], .all _⟩, done.hosted, done.serial, done.spent, nofun⟩

theorem conclude_worked {s' : Spec k} {w' : Simulator k} {action : SyncAction}
    {done : List k.Change} {warnings : List Warning} (consistent : Consistent w.hosted)
    (worked : Worked s clock w done warnings s' w') :
    ((settings.engine clock k).conclude now action done warnings (s.origin clock w).tags).Ensures
      s' w' (Ends s clock now w) := by
  obtain ⟨working, ⟨missed, attempted⟩, hosted, serial, spent, struck⟩ := worked
  have known := s.identifier_origin_ne_empty consistent clock
  have settledTags := Spec.settledTags_eq_of_intent working.intent
  have insert : ∀ h', w'.hosted.insert s'.identifier h' =
      w.hosted.insert (s.origin clock w).identifier h' := by
    intro h'
    rw [hosted, working.identifier, Dict.insert_insert]
  have toward : ∀ tags, s.settledTags tags = s.settledTags (s.origin clock w).tags →
      Toward s (s.origin clock w) { (s.origin clock w).applyAll done with tags := tags } :=
    fun tags same => (Toward.applyAll attempted.part).trans (.withTags same)
  have there : w'.hosted.get? s'.identifier = some ((s.origin clock w).applyAll done) := by
    rw [hosted, working.identifier, Dict.get?_insert_self]
  refine conclude (h := (s.origin clock w).applyAll done) (working.identifier ▸ known) there ?_ ?_ ?_
  · rintro rfl
    exact working.observe_eq
  · intro f s'' tags w'' intent identifier same cut
    rw [insert, serial] at cut
    rw [settledTags] at same
    exact .inr ⟨nofun, .begun _ (intent.trans working.intent) (identifier.trans working.identifier)
      (toward tags same) ⟨cut.struck.after spent, cut.hosted, cut.serial⟩⟩
  · intro plan w'' wrote s'' after
    rw [insert, serial, settledTags] at wrote
    have synced : s'' = s.synced now ((s.origin clock w).applyAll done) := by
      have identifier : s'.shared.identifier = (s.origin clock w).identifier := working.identifier
      rw [after, ← Spec.synced_eq_of_intent working.intent]
      simp only [Spec.synced, Spec.observe, Hosted.identifier_applyAll, identifier]
    by_cases none : warnings = []
    · obtain rfl := attempted.done_eq_of_clean none
      exact .inl ⟨_, rfl, none, rfl, synced, spent.trans wrote.spent, wrote.hosted, wrote.serial⟩
    -- The tags are right, but a best-effort change is missing, and a warning says so.
    · refine .inr ⟨?_, .begun _ ?_ ?_ (toward _ (s.settledTags_settledTags _)) ?_⟩
      · rintro _ ⟨⟩
        exact ⟨none, ⟨missed, attempted⟩, synced, wrote.hosted⟩
      · rw [synced, Spec.intent_synced]
      · rw [synced]
        rfl
      · exact ⟨(struck none).before wrote.spent, wrote.hosted, wrote.serial⟩

/-- What a sync that began after some calls that changed nothing came to. -/
theorem Ends.of_made {w' w'' : Simulator k} {s' : Spec k}
    {answer : Except Failure (SyncOutcome k)} (idle : Made w w.hosted w.serial w')
    (ends : Ends s clock now w' answer s' w'') : Ends s clock now w answer s' w'' := by
  have found : s.resource? w'.toHost = s.resource? w.toHost := Spec.resource?_congr idle.hosted
  have begins := Spec.origin_congr rfl found idle.serial clock
  have serial := Spec.nextSerial_congr found idle.serial
  rcases ends with ⟨o, rfl, warnings, applied, spec, world⟩ | ⟨partly, halfway⟩
  · rw [begins] at applied spec world
    rw [serial, idle.hosted] at world
    exact .inl ⟨o, rfl, warnings, applied, spec, idle.made world⟩
  · refine .inr ⟨fun o answered => ?_, ?_⟩
    · obtain ⟨warned, attempted, spec, hosted⟩ := partly o answered
      rw [begins] at attempted spec hosted
      rw [idle.hosted] at hosted
      exact ⟨warned, attempted, spec, hosted⟩
    cases halfway with
    | waiting looking cut => exact .waiting (idle.hosted ▸ looking) (idle.cut cut)
    | begun h intent identifier toward cut =>
      rw [begins] at identifier toward cut
      rw [serial, idle.hosted] at cut
      exact .begun h intent identifier toward (idle.broken cut)

/-- A sync of an accepted specification did everything, or a fault struck, unless the specification
has strayed and goes on with the resource that its identifier is the name of. -/
theorem sync_or_astray {post : Except Failure (SyncOutcome k) → Spec k → Simulator k → Prop}
    (accepted : s.prepare.2 = .ok ()) (consistent : Consistent w.hosted)
    (ends : ∀ answer s' w', Ends s.prepare.1 clock now w answer s' w' → post answer s' w')
    (astray : ∀ h w', s.prepare.1.identifier ≠ "" → w.hosted.get? s.prepare.1.identifier = none →
      w.current? s.prepare.1.identifier = some h → Made w w.hosted w.serial w' →
      Run.Ensures (do
        let (action, (applied, warnings), tags) ← (settings.engine clock k).settle (.found h)
        (settings.engine clock k).conclude now action applied warnings tags) s.prepare.1 w' post) :
    ((settings.engine clock k).sync now).Ensures s w post := by
  have prepared := Spec.prepared_prepare accepted
  rw [Engine.sync_eq]
  refine bind (prepare accepted (bind ?_))
  generalize s.prepare.1 = s at prepared ends astray
  -- Looking changes nothing on the host, so what comes after may be counted from its beginning.
  have rest : ∀ {presence s' w'}, Located s w' presence s' → Made w w.hosted w.serial w' →
      Run.Ensures (do
        let (action, (applied, warnings), tags) ← (settings.engine clock k).settle presence
        (settings.engine clock k).conclude now action applied warnings tags) s' w'
        post := by
    intro presence s' w' located idle
    have consistent' : Consistent w'.hosted := idle.hosted ▸ consistent
    refine bind ((settle consistent' prepared located).mono ?_)
    rintro (f | ⟨action, ⟨done, warnings⟩, tags⟩) s'' w'' worked
    · exact ends _ _ _ (.of_made idle (.inr ⟨nofun, worked⟩))
    · obtain ⟨rfl, worked⟩ := worked
      refine (conclude_worked consistent' worked).mono fun answer s' w' ended => ?_
      exact ends _ _ _ (.of_made idle ended)
  apply locate consistent
  · exact fun f s' w' looking broken => ends _ _ _ (.inr ⟨nofun, .waiting looking broken⟩)
  · intro h s' w' found intent identifier idle
    exact rest (.found ((Spec.resource?_congr idle.hosted).trans found) intent identifier) idle
  · intro drifted s' w' missing intent identifier idle
    exact rest (.missing ((Spec.resource?_congr idle.hosted).trans missing) intent identifier) idle
  · exact astray

/-- A sync of an accepted specification that is in its place did everything, or a fault struck. -/
theorem sync (accepted : s.prepare.2 = .ok ()) (consistent : Consistent w.hosted)
    (placed : s.prepare.1.Placed w.hosted) :
    ((settings.engine clock k).sync now).Ensures s w (Ends s.prepare.1 clock now w) := by
  refine sync_or_astray accepted consistent (fun _ _ _ ended => ended) ?_
  intro h w' known absent there _
  rcases placed with unknown | key | nameless
  · exact absurd unknown known
  · exact absurd (Dict.contains_eq_false_iff.mpr absent) (by simp [key])
  · have missing : Host.find? w.hosted s.prepare.1.identifier = none :=
      Host.find?_eq_none_iff.mpr ⟨Dict.contains_eq_false_iff.mpr absent, nameless⟩
    simp [Host.current?, missing] at there

end Run.Ensures

end DesiredState
