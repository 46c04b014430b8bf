import DesiredState.Proofs.Host.Numbering
import DesiredState.Proofs.Host.Provider
import DesiredState.Proofs.Reconcile.Disposal
import DesiredState.Proofs.Reconcile.Footprint
import DesiredState.Proofs.Reconcile.Trace

/-!
# The history of a host

Any number of syncs and deletions of any specifications follow each other on one host, under any
tokens, and faults are armed in between.  Resources stand under their own identifiers all the time,
no name is used twice, and a resource that was there once is there still, with the same identifier
and name, unless a call to delete it has succeeded.

Contents:

* `Deed`, `Deed.after`, `Deed.events` — what is done to a host, and what it comes to.
* `Turned`, `Deed.turned` — the few ways in which one deed can change a host.
* `Turned.sound`, `Turned.spares` — what one deed keeps.
* `history_sound` — the main result.
-/

namespace DesiredState

variable {k : Kind} {σ α : Type}

/-! ## Deeds -/

/-- What is done to a host: a resource is synced or deleted, or a fault is armed. -/
inductive Deed (k : Kind)
  | sync (settings : RunSettings) (clock now : Instant) (s : Spec k) (token : Token)
  | delete (settings : RunSettings) (clock : Instant) (s : Spec k) (token : Token)
  | arm (op : Operation) (e : GatewayError)

namespace Deed

/-- The host after a deed. -/
def after (w : Simulator k) : Deed k → Simulator k
  | sync settings clock now s token =>
    (((settings.engine clock k).sync now).run ⟨s, w, token⟩).2.world
  | delete settings clock s token => ((settings.engine clock k).delete.run ⟨s, w, token⟩).2.world
  | arm op e => { w with toHost := w.toHost.failNext op e }

/-- The calls of a deed with their answers. -/
def events (w : Simulator k) : Deed k → List (Event k)
  | sync settings clock now s token =>
    (((settings.engine clock k).traced.sync now).run ⟨s, (w, []), token⟩).2.world.2
  | delete settings clock s token =>
    ((settings.engine clock k).traced.delete.run ⟨s, (w, []), token⟩).2.world.2
  | arm _ _ => []

/-- The host after several deeds. -/
def afterAll (w : Simulator k) : List (Deed k) → Simulator k
  | [] => w
  | d :: rest => afterAll (d.after w) rest

/-- The calls of several deeds with their answers. -/
def allEvents (w : Simulator k) : List (Deed k) → List (Event k)
  | [] => []
  | d :: rest => d.events w ++ allEvents (d.after w) rest

end Deed

/-! ## The record of a deletion -/

/-- A deletion is the same with and without a record. -/
theorem Records.delete (settings : RunSettings) (clock : Instant) (before : List (Call k)) :
    Run.Follows (Records before) (fun _ => False) (settings.engine clock k).traced.delete
      (settings.engine clock k).delete := by
  refine (Engine.simulates_traced settings clock before).parallel.delete rfl (fun s snapshot => ?_)
    fun s => ?_
  · exact Records.follows ((journals_gateway k clock).delete s snapshot) _ _
  · exact Records.follows ((journals_gateway k clock).stop s) _ _

/-- The record of a deletion holds the calls that it makes. -/
theorem run_delete_traced (settings : RunSettings) (clock : Instant) (s : Spec k) (w : Simulator k)
    (token : Token) :
    ∃ answer s' w' token' events,
      (settings.engine clock k).delete.run ⟨s, w, token⟩ = (answer, ⟨s', w', token'⟩) ∧
        (settings.engine clock k).traced.delete.run ⟨s, (w, []), token⟩ =
          (answer, ⟨s', (w', events), token'⟩) ∧
        w'.journal = w.journal ++ events.map Event.call := by
  have begins : Records w.journal ⟨s, (w, ([] : List (Event k))), token⟩ ⟨s, w, token⟩ :=
    ⟨rfl, rfl, rfl, by simp⟩
  rcases Records.delete settings clock w.journal _ _ begins with ⟨_, _, _, ⟨⟩⟩ |
    ⟨answer, ⟨s', ⟨w', events⟩, token'⟩, ⟨_, _, _⟩, traced, ran, rfl, rfl, rfl, journal⟩
  exact ⟨answer, s', w', token', events, ran, traced, journal⟩

/-! ## What a deed can change -/

/-- What a deed with these calls leaves of a host: the same titles, all but one resource that was
deleted by a call, or all and a new one. -/
inductive Turned (w : Simulator k) (events : List (Event k)) (w' : Simulator k) : Prop
  | still (titles : ∀ key, titleAt w'.hosted key = titleAt w.hosted key)
      (serial : w'.serial = w.serial)
  | removed {key : String} {snapshot : Option String}
      (called : (⟨.delete key snapshot, .done⟩ : Event k) ∈ events)
      (hosted : w'.hosted = w.hosted.erase key) (serial : w'.serial = w.serial)
  | added {name : String} (free : Host.find? w.hosted name = none)
      (title : titleAt w'.hosted (k.identifier w.serial.next) = some (k.identifier w.serial.next, name))
      (others : ∀ key, key ≠ k.identifier w.serial.next → w'.hosted.get? key = w.hosted.get? key)
      (serial : w'.serial = w.serial.succ)

theorem Turned.of_eq {w w' : Simulator k} {events : List (Event k)} (hosted : w'.hosted = w.hosted)
    (serial : w'.serial = w.serial) : Turned w events w' :=
  .still (fun key => by rw [hosted]) serial

theorem Turned.of_noted {w w' : Simulator k} {c : Call k} {events : List (Event k)}
    (turned : Turned (w.noted c) events w') : Turned w events w' := by
  cases turned with
  | still titles serial => exact .still titles serial
  | removed called hosted serial => exact .removed called hosted serial
  | added free title others serial => exact .added free title others serial

/-- A request that changes one resource, but not its title. -/
theorem turned_modifyHosted {identifier : String} {w : Simulator k}
    {f : HostedOf k → Except GatewayError (HostedOf k)}
    (kept : ∀ h h', f h = .ok h' → h'.title = h.title) (events : List (Event k)) :
    Turned w events (Simulator.modifyHosted identifier f w).2 := by
  cases found : w.hosted.get? identifier with
  | none =>
    simp only [Simulator.modifyHosted, found]
    exact .of_eq rfl rfl
  | some h =>
    cases changed : f h with
    | error e =>
      simp only [Simulator.modifyHosted, found, changed]
      exact .of_eq rfl rfl
    | ok h' =>
      simp only [Simulator.modifyHosted, found, changed]
      exact .still (Tended.insert found (kept h h' changed)).titles rfl

/-- A call is not made, or it is made and recorded. -/
theorem Run.Yields.traced {c : Call k} {reply : α → Reply k} {request : Request σ α}
    {op : Operation} {x : Session k (σ × List (Event k))}
    {post : Except Failure α → Session k (σ × List (Event k)) → Prop}
    (unmade : ∀ answer y, y.world = x.world → post answer y)
    (made : ∀ answer y, y.world = ((request x.world.1).2,
      x.world.2 ++ [⟨c, .ofAnswer reply (request x.world.1).1⟩]) → post answer y) :
    Run.Yields (Engine.call op (Request.traced c reply request)) x post := by
  obtain ⟨s, w, token⟩ := x
  constructor
  rw [Engine.call, run_callKeeping_token]
  rcases token.next op with ⟨fate, token'⟩
  cases fate with
  | refused => exact unmade _ _ rfl
  | lost => exact made _ _ rfl
  | returns => exact made _ _ rfl

section

variable {settings : RunSettings} {clock now : Instant} {s : Spec k} {w : Simulator k}
  {token : Token}

/-- A call that is not made, or that a fault refuses, leaves all as it was. -/
theorem turned_of_call {α : Type} {op : Operation} {c : Call k} {reply : α → Reply k}
    {act : Request (Simulator k) α}
    (acted : Turned w [⟨c, .ofAnswer reply (act (w.noted c)).1⟩] (act (w.noted c)).2) :
    (Engine.call op (Request.traced c reply (Simulator.enter c act))).Yields ⟨s, (w, []), token⟩
      fun _ y => Turned w y.world.2 y.world.1 := by
  refine .traced (fun _ y same => ?_) fun _ y same => ?_ <;> rw [same]
  · exact .of_eq rfl rfl
  cases pending : w.faults c.operation with
  | some e =>
    rw [Simulator.enter_of_fault pending]
    exact .of_eq rfl rfl
  | none =>
    rw [Simulator.enter_of_quiet pending]
    exact acted

theorem remove_turned (snapshot : Option String) :
    (Engine.call .delete ((settings.engine clock k).traced.gateway.delete s snapshot)).Yields
      ⟨s, (w, []), token⟩ fun _ y => Turned w y.world.2 y.world.1 :=
  turned_of_call (.removed (List.mem_singleton.mpr rfl) rfl rfl)

theorem stop_turned :
    (Engine.call .stop ((settings.engine clock k).traced.gateway.stop s)).Yields
      ⟨s, (w, []), token⟩ fun _ y => Turned w y.world.2 y.world.1 := by
  refine turned_of_call (.of_noted (turned_modifyHosted (fun h h' stopped => ?_) _))
  cases ended : Hosted.stop h with
  | none => rw [ended] at stopped; cases stopped
  | some h'' =>
    rw [ended] at stopped
    obtain ⟨a, -, rfl⟩ := Option.map_eq_some_iff.mp ended
    cases stopped
    rfl

theorem delete_turned (settings : RunSettings) (clock : Instant) (s : Spec k) (w : Simulator k)
    (token : Token) :
    ((settings.engine clock k).traced.delete).Yields ⟨s, (w, []), token⟩ fun _ y =>
      Turned w y.world.2 y.world.1 := by
  unfold Engine.delete
  refine .bind (.spec ?_)
  dsimp only
  cases s.effectivePolicy with
  | error v => exact .throw (.of_eq rfl rfl)
  | ok policy =>
    have performed (action : DeleteAction) :
        ((settings.engine clock k).traced.perform s action).Yields ⟨s, (w, []), token⟩ fun _ y =>
          Turned w y.world.2 y.world.1 := by
      cases action with
      | skip reason => exact .pure (.of_eq rfl rfl)
      | delete => exact remove_turned none
      | snapshotThenDelete id => exact remove_turned (some id)
      | stop => exact stop_turned
    refine .bind ((performed _).mono ?_)
    rintro (f | _) y turned
    · exact turned
    · exact .pure turned

end

theorem Marks.turned {s : Spec k} {w : Simulator k} {answer : Except Failure (SyncOutcome k)}
    {y : Session k (Simulator k)} (marks : Marks s w answer y) (events : List (Event k)) :
    Turned w events y.world := by
  cases marks with
  | idle _ hosted serial => exact .of_eq hosted serial
  | tended _ tended serial _ => exact .still tended.titles serial
  | created _ created _ => exact .added created.free created.title created.others created.serial

namespace Deed

variable {w : Simulator k}

/-- The host writes down the calls of a deed. -/
theorem journal_after (w : Simulator k) (d : Deed k) :
    (d.after w).journal = w.journal ++ (d.events w).map Event.call := by
  cases d with
  | sync settings clock now s token =>
    obtain ⟨_, _, _, _, _, ran, traced, journal⟩ := run_sync_traced settings clock now s w token
    rw [after, events, ran, traced, journal]
  | delete settings clock s token =>
    obtain ⟨_, _, _, _, _, ran, traced, journal⟩ := run_delete_traced settings clock s w token
    rw [after, events, ran, traced, journal]
  | arm op e => exact (List.append_nil _).symm

theorem turned (consistent : Consistent w.hosted) (d : Deed k) :
    Turned w (d.events w) (d.after w) := by
  cases d with
  | sync settings clock now s token =>
    exact (Run.Yields.sync_marks settings clock now s consistent token).ends.2.turned _
  | delete settings clock s token =>
    obtain ⟨_, _, _, _, _, ran, traced, -⟩ := run_delete_traced settings clock s w token
    have ends := (delete_turned settings clock s w token).ends
    rw [after, events, ran, traced]
    rwa [traced] at ends
  | arm op e => exact .of_eq rfl rfl

end Deed

/-! ## What is kept -/

namespace Turned

variable {w w' : Simulator k} {events : List (Event k)}

theorem serial_le (turned : Turned w events w') : w.serial ≤ w'.serial := by
  cases turned with
  | still _ serial => exact serial.ge
  | removed _ _ serial => exact serial.ge
  | added _ _ _ serial => exact serial ▸ w.serial.le_succ

/-- A key that is new bears the number that was used up for it. -/
theorem contains_eq_false (turned : Turned w events w') {key : String}
    (absent : w.hosted.contains key = false)
    (unused : w'.serial = w.serial.succ → key ≠ k.identifier w.serial.next) :
    w'.hosted.contains key = false := by
  rw [Dict.contains_eq_false_iff] at absent ⊢
  cases turned with
  | still titles _ =>
    have title := titles key
    rw [titleAt, titleAt, absent] at title
    exact Option.map_eq_none_iff.mp title
  | removed _ hosted _ => rw [hosted, Dict.get?_erase]; split <;> [rfl; exact absent]
  | added _ _ others serial => rw [others key (unused serial), absent]

/-- Whatever is hosted stays, with its title, unless a call has deleted it. -/
theorem spares (turned : Turned w events w')
    (fresh : w'.serial = w.serial.succ → w.hosted.contains (k.identifier w.serial.next) = false)
    {key : String} {title : String × String} (there : titleAt w.hosted key = some title) :
    (∃ snapshot, (⟨.delete key snapshot, .done⟩ : Event k) ∈ events) ∨
      titleAt w'.hosted key = some title := by
  cases turned with
  | still titles _ => exact .inr ((titles key).trans there)
  | @removed key' snapshot called hosted _ =>
    by_cases own : key = key'
    · exact .inl ⟨snapshot, own ▸ called⟩
    · refine .inr ?_
      rw [titleAt, hosted, Dict.get?_erase, if_neg own]
      exact there
  | added _ _ others serial =>
    refine .inr ?_
    have other : key ≠ k.identifier w.serial.next := by
      rintro rfl
      have absent := fresh serial
      rw [contains_eq_isSome_titleAt, there] at absent
      cases absent
    rw [titleAt, others key other]
    exact there

theorem sound (turned : Turned w events w') (sound : Sound w.hosted) : Sound w'.hosted := by
  cases turned with
  | still titles _ => exact sound.of_titles titles
  | added free new others serial =>
    refine sound.added free (k.identifier_ne_empty w.serial.next) new fun key other => ?_
    rw [titleAt, titleAt, others key other]
  | @removed gone _ _ hosted _ =>
    have earlier : ∀ {key h}, w'.hosted.get? key = some h → w.hosted.get? key = some h := by
      intro key h there
      rw [hosted, Dict.get?_erase] at there
      split at there
      · cases there
      · exact there
    exact ⟨fun key h there => sound.consistent key h (earlier there),
      fun key key' h h' there there' =>
        sound.distinct key key' h h' (earlier there) (earlier there')⟩

end Turned

/-! ## Histories -/

/-- Of the numbers that are used up until a host has become another one, none belongs to an
identifier that is hosted already, and none is used twice. -/
structure Simulator.Fresh (w last : Simulator k) : Prop where
  unused : ∀ n, w.serial.Gives last.serial n → w.hosted.contains (k.identifier n) = false
  distinct : w.serial.Distinct last.serial

namespace Deed

variable {w last : Simulator k}

theorem afterAll_append (w : Simulator k) (front more : List (Deed k)) :
    afterAll w (front ++ more) = afterAll (afterAll w front) more := by
  induction front generalizing w with
  | nil => rfl
  | cons d front inductionHypothesis => exact inductionHypothesis (d.after w)

theorem sound_afterAll (sound : Sound w.hosted) (deeds : List (Deed k)) :
    Sound (afterAll w deeds).hosted := by
  induction deeds generalizing w with
  | nil => exact sound
  | cons d deeds inductionHypothesis =>
    exact inductionHypothesis ((d.turned sound.consistent).sound sound)

theorem serial_le_afterAll (sound : Sound w.hosted) (deeds : List (Deed k)) :
    w.serial ≤ (afterAll w deeds).serial := by
  induction deeds generalizing w with
  | nil => exact le_rfl
  | cons d deeds inductionHypothesis =>
    have turned := d.turned sound.consistent
    exact turned.serial_le.trans (inductionHypothesis (turned.sound sound))

theorem journal_afterAll (w : Simulator k) (deeds : List (Deed k)) :
    (afterAll w deeds).journal = w.journal ++ (allEvents w deeds).map Event.call := by
  induction deeds generalizing w with
  | nil => exact (List.append_nil _).symm
  | cons d deeds inductionHypothesis =>
    rw [afterAll, inductionHypothesis, d.journal_after, allEvents, List.map_append,
      List.append_assoc]

/-- A deed uses up the numbers of its own, and none that comes after them. -/
theorem fresh_after (sound : Sound w.hosted) (fresh : w.Fresh last) (d : Deed k)
    (late : (d.after w).serial ≤ last.serial) : (d.after w).Fresh last := by
  have turned := d.turned sound.consistent
  have early := turned.serial_le
  refine ⟨fun n given => ?_, fresh.distinct.right early⟩
  refine turned.contains_eq_false (fresh.unused n ?_) fun used same => ?_
  · exact (Numbering.gives_iff early late).mpr (.inr given)
  · -- The number that was used up now is none of those that come later.
    obtain rfl := k.identifier_injective same
    exact fresh.distinct.not_gives early (Numbering.gives_next used.ge) given

theorem fresh_afterAll (sound : Sound w.hosted) (fresh : w.Fresh last) (deeds : List (Deed k))
    (late : (afterAll w deeds).serial ≤ last.serial) : (afterAll w deeds).Fresh last := by
  induction deeds generalizing w with
  | nil => exact fresh
  | cons d deeds inductionHypothesis =>
    have sound' := (d.turned sound.consistent).sound sound
    exact inductionHypothesis sound'
      (fresh_after sound fresh d ((serial_le_afterAll sound' deeds).trans late)) late

/-- Whatever is hosted stays, with its title, unless one of the calls has deleted it. -/
theorem spares_afterAll {deeds : List (Deed k)} (sound : Sound w.hosted)
    (fresh : w.Fresh (afterAll w deeds)) {key : String} {title : String × String}
    (there : titleAt w.hosted key = some title) :
    (∃ snapshot, (⟨.delete key snapshot, .done⟩ : Event k) ∈ allEvents w deeds) ∨
      titleAt (afterAll w deeds).hosted key = some title := by
  induction deeds generalizing w with
  | nil => exact .inr there
  | cons d deeds inductionHypothesis =>
    have turned := d.turned sound.consistent
    have sound' := turned.sound sound
    have late := serial_le_afterAll sound' deeds
    have unused (used : (d.after w).serial = w.serial.succ) :
        w.hosted.contains (k.identifier w.serial.next) = false :=
      fresh.unused _ (Numbering.gives_next (used.ge.trans late))
    -- A resource that this deed spares is there for the others, whose numbers are still unused.
    rcases turned.spares unused there with ⟨snapshot, called⟩ | there'
    · exact .inl ⟨snapshot, List.mem_append_left _ called⟩
    · refine (inductionHypothesis sound' (fresh_after sound fresh d late) there').imp_left ?_
      rintro ⟨snapshot, called⟩
      exact ⟨snapshot, List.mem_append_right _ called⟩

end Deed

open Deed in
/-- However many deeds are done to a sound host: it is sound afterwards, and whatever was hosted on
the way is hosted still, with the same identifier and name, unless a later call has deleted it. -/
theorem history_sound {w : Simulator k} (sound : Sound w.hosted) (front more : List (Deed k))
    (fresh : w.Fresh (afterAll w (front ++ more))) :
    Sound (afterAll w (front ++ more)).hosted ∧
      (afterAll w (front ++ more)).journal =
        (afterAll w front).journal ++ (allEvents (afterAll w front) more).map Event.call ∧
      ∀ key h, (afterAll w front).hosted.get? key = some h →
        (∃ snapshot, ⟨.delete key snapshot, .done⟩ ∈ allEvents (afterAll w front) more) ∨
          ∃ h', (afterAll w (front ++ more)).hosted.get? key = some h' ∧
            h'.identifier = h.identifier ∧ h'.name = h.name := by
  refine ⟨sound_afterAll sound _, ?_, fun key h there => ?_⟩
  · rw [afterAll_append, journal_afterAll]
  have title : titleAt (afterAll w front).hosted key = some h.title := by
    rw [titleAt, there]
    rfl
  rw [afterAll_append] at fresh ⊢
  have fresh' := fresh_afterAll sound fresh front
    (serial_le_afterAll (sound_afterAll sound front) more)
  refine (spares_afterAll (sound_afterAll sound front) fresh' title).imp_right fun title' => ?_
  obtain ⟨h', there', same⟩ := Option.map_eq_some_iff.mp title'
  exact ⟨h', there', congrArg Prod.fst same, congrArg Prod.snd same⟩

namespace Sample

/-- A new key is synced; then the old one is deleted, once against a fault and once without. -/
def deeds : List (Deed .cryptoKey) × List (Deed .cryptoKey) :=
  ([.sync {} .epoch .epoch { spec with name := "alias/new" } .live],
    [.arm .delete (.throttled 5), .delete {} .epoch (held "key-0") .live,
      .delete {} .epoch (held "key-0") .live])

end Sample

open Deed in
/-- The old key is gone, by the call that succeeded, and the new one is there. -/
theorem history_sound_keys :
    let w := Sample.host fun _ => none
    let front := Sample.deeds.1
    let more := Sample.deeds.2
    (Sound w.hosted ∧ w.Fresh (afterAll w (front ++ more))) ∧
      Sound (afterAll w (front ++ more)).hosted ∧
      (∃ snapshot, (⟨.delete "key-0" snapshot, .done⟩ : Event .cryptoKey) ∈
        allEvents (afterAll w front) more) := by
  have sound : Sound (Sample.host fun _ => none).hosted := by
    have only {key : String} {h : HostedOf .cryptoKey}
        (there : (Sample.host fun _ => none).hosted.get? key = some h) : key = "key-0" := by
      have there : (Dict.empty.insert "key-0" Sample.key).get? key = some h := there
      by_contra other
      rw [Dict.get?_insert_of_ne _ _ other] at there
      cases there
    exact ⟨Sample.consistent_host _,
      fun _ _ _ _ there there' _ => (only there).trans (only there').symm⟩
  have last : (afterAll (Sample.host fun _ => none)
      (Sample.deeds.1 ++ Sample.deeds.2)).serial = Numbering.succ 1 := rfl
  have fresh : Simulator.Fresh (Sample.host fun _ => none)
      (afterAll (Sample.host fun _ => none) (Sample.deeds.1 ++ Sample.deeds.2)) := by
    constructor
    · intro n given
      rw [last] at given
      obtain rfl := Numbering.gives_succ_iff.mp given
      decide
    · rw [last]
      exact Numbering.distinct_succ 1
  have history := history_sound sound Sample.deeds.1 Sample.deeds.2 fresh
  refine ⟨⟨sound, fresh⟩, history.1, ?_⟩
  have gone : (afterAll (Sample.host fun _ => none)
      (Sample.deeds.1 ++ Sample.deeds.2)).hosted.get? "key-0" = none := by decide
  rcases history.2.2 "key-0" Sample.key (by decide) with called | ⟨h', there, -⟩
  · exact called
  · rw [gone] at there
    cases there

end DesiredState
