import DesiredState.Proofs.Fleet.Account
import DesiredState.Proofs.Reconcile.Encounter

/-!
# Runs that come as far as they can

A run that syncs may be cut at any call, and any of its calls may fail.  Each of its resources has then
come to a point of its own; those after the failure that halted the run are where they were.

Contents:

* `Advanced` — what one turn may come to.
* `syncOne_advanced`, `Advanced.refl` — every turn, and every resource that is left alone.
* `Advanced.hosted_cases` — where what is hosted after a turn comes from.
* `Advances`, `syncAll_advances` — whole runs.
* `Brought.advanced`, `Brings.advances` — turns that nothing cuts.
-/

namespace DesiredState

variable {k : Kind} {settings : RunSettings} {now : Instant} {p p' p'' : Provider} {r r' : Resource}

/-! ## One turn -/

/-- It was tried to bring a resource about, however far that went. -/
structure Advanced (p : Provider) (r r' : Resource) (p' : Provider) : Prop where
  intent : ∃ s : Spec r.kind, r' = ⟨r.kind, s⟩ ∧ s.intent = r.spec.intent
  encounter : Encounter r.spec (p.simulator r.kind) r'.identifier (p'.simulator r.kind)
  others : ∀ k, k ≠ r.kind → p'.hosted k = p.hosted k

theorem world_workOn {α : Type} (r : Resource) (w : World) (run : Run r.kind (Simulator r.kind) α)
    (report : Spec r.kind → α → ReportEntry) :
    (workOn r w run report).world.provider = w.provider.withSimulator
      (run.run ⟨r.spec, w.provider.simulator r.kind, w.token⟩).2.world := by
  unfold workOn
  rcases run.run ⟨r.spec, w.provider.simulator r.kind, w.token⟩ with ⟨f | a, y⟩ <;> rfl

theorem Provider.simulator_withSimulator (p : Provider) (w : Simulator k) :
    (p.withSimulator w).simulator k = w := by
  rw [simulator, host_withSimulator]
  rfl

theorem syncOne_advanced (settings : RunSettings) (now : Instant) (prepared : r.spec.Prepared)
    (consistent : Consistent (p.hosted r.kind)) (held : r.Held p) (token : Token) :
    Advanced p r (syncOne settings now r ⟨p, token⟩).resource
      (syncOne settings now r ⟨p, token⟩).world.provider := by
  have ends := (Run.Yields.sync_encounter settings now now (w := p.simulator r.kind) prepared
    consistent held token).ends
  rw [syncOne, resource_workOn, world_workOn]
  dsimp only
  generalize ((settings.engine now r.kind).sync now).run ⟨r.spec, p.simulator r.kind, token⟩ = ended
    at ends
  obtain ⟨answer, y⟩ := ended
  obtain ⟨intent, encounter⟩ := ends
  refine ⟨⟨y.spec, rfl, intent⟩, ?_, fun k other => p.hosted_withSimulator_of_ne y.world other⟩
  rw [Provider.simulator_withSimulator]
  exact encounter

/-- A resource that no turn is about stays where it is. -/
theorem Advanced.refl (consistent : Consistent (p.hosted r.kind)) (held : r.Held p) :
    Advanced p r r p := by
  refine ⟨⟨r.spec, rfl, rfl⟩, ?_, fun _ _ => rfl⟩
  rcases held with unknown | there
  · exact .missed unknown unknown (fun _ => rfl) rfl
  · obtain ⟨h, hosted⟩ := Dict.contains_iff.mp there
    obtain ⟨-, own⟩ := consistent _ h hosted
    exact .found (Spec.resource?_of_get? (w := p.host r.kind) hosted) own.symm (fun _ => rfl) rfl

namespace Advanced

variable (advanced : Advanced p r r' p')
include advanced

theorem serial_le : p.serial ≤ p'.serial := by
  cases advanced.encounter with
  | missed _ _ _ serial => exact serial.ge
  | found _ _ _ serial => exact serial.ge
  | created _ _ _ _ serial => exact serial.ge.trans' p.serial.le_succ

/-- Whatever is hosted stays under its title, but for what stood under a new identifier. -/
theorem titles {key : String} {title : String × String}
    (there : titleAt (p.hosted k) key = some title) :
    ∃ title', titleAt (p'.hosted k) key = some title' := by
  by_cases same : k = r.kind
  · subst same
    cases advanced.encounter with
    | missed _ _ titles _ => exact ⟨title, (titles key).trans there⟩
    | found _ _ titles _ => exact ⟨title, (titles key).trans there⟩
    | created _ _ new others _ =>
      by_cases own : key = r'.identifier
      · exact ⟨_, own ▸ new⟩
      · refine ⟨title, ?_⟩
        rw [← there]
        exact congrArg (Option.map Hosted.title) (others key own)
  · exact ⟨title, by rw [advanced.others k same, there]⟩

theorem held {q : Resource} (held : q.Held p) : q.Held p' := by
  refine held.imp id fun there => ?_
  rw [contains_eq_isSome_titleAt] at there ⊢
  obtain ⟨title, there⟩ := Option.isSome_iff_exists.mp there
  obtain ⟨title', there'⟩ := advanced.titles there
  rw [there']
  rfl

/-- What is hosted after a turn was hosted before it under the same title, or it is what the turn
created. -/
theorem hosted_cases {key : String} {h' : HostedOf k} (there : (p'.hosted k).get? key = some h') :
    (∃ h, (p.hosted k).get? key = some h ∧ h.title = h'.title) ∨
      p'.serial = p.serial.succ ∧ key = k.identifier p.serial.next ∧ k = r.kind ∧
        h'.title = (key, r.name) := by
  have kept (same : titleAt (p'.hosted k) key = titleAt (p.hosted k) key) :
      ∃ h, (p.hosted k).get? key = some h ∧ h.title = h'.title :=
    exists_of_titleAt_eq same.symm there
  by_cases own : k = r.kind
  case neg => exact .inl (kept (by rw [advanced.others k own]))
  subst own
  cases advanced.encounter with
  | missed _ _ titles _ => exact .inl (kept (titles key))
  | found _ _ titles _ => exact .inl (kept (titles key))
  | created _ new title others serial =>
    by_cases own : key = r'.identifier
    · subst own
      have title' : some h'.title = some (r'.identifier, r.name) :=
        (congrArg (Option.map Hosted.title) there).symm.trans title
      exact .inr ⟨serial, new, rfl, Option.some.inj title'⟩
    · exact .inl (kept (congrArg (Option.map Hosted.title) (others key own)))

theorem consistent (consistent : ∀ k, Consistent (p.hosted k)) (k : Kind) :
    Consistent (p'.hosted k) := by
  intro key h' there
  rcases advanced.hosted_cases there with ⟨h, before, title⟩ | ⟨-, new, -, title⟩
  · obtain ⟨known, own⟩ := consistent k key h before
    exact ⟨known, (congrArg Prod.fst title).symm.trans own⟩
  · exact ⟨new ▸ k.identifier_ne_empty _, congrArg Prod.fst title⟩

end Advanced

/-! ## Whole runs -/

/-- It was tried to bring resources about, one after the other. -/
inductive Advances : Provider → List Resource → List Resource → Provider → Prop
  | nil (p : Provider) : Advances p [] [] p
  | cons {p p' p'' : Provider} {r r' : Resource} {rs rs' : List Resource}
      (first : Advanced p r r' p') (rest : Advances p' rs rs' p'') :
      Advances p (r :: rs) (r' :: rs') p''

/-- Resources that are left alone stay where they are. -/
theorem Advances.refl {rs : List Resource} (consistent : ∀ k, Consistent (p.hosted k))
    (held : ∀ r ∈ rs, r.Held p) : Advances p rs rs p := by
  induction rs with
  | nil => exact .nil p
  | cons r rs inductionHypothesis =>
    obtain ⟨here, held⟩ := List.forall_mem_cons.mp held
    exact .cons (.refl (consistent r.kind) here) (inductionHypothesis held)

theorem Advances.serial_le {rs rs' : List Resource} (advances : Advances p rs rs' p') :
    p.serial ≤ p'.serial := by
  induction advances with
  | nil p => exact le_rfl
  | cons first _ inductionHypothesis => exact first.serial_le.trans inductionHypothesis

theorem Advances.consistent {rs rs' : List Resource} (advances : Advances p rs rs' p')
    (consistent : ∀ k, Consistent (p.hosted k)) : ∀ k, Consistent (p'.hosted k) := by
  induction advances with
  | nil p => exact consistent
  | cons first _ inductionHypothesis => exact inductionHypothesis (first.consistent consistent)

/-- Whatever halts a run that syncs, it has made its advances. -/
theorem syncAll_advances (settings : RunSettings) (now : Instant) {rs : List Resource}
    (prepared : ∀ r ∈ rs, r.spec.Prepared) (consistent : ∀ k, Consistent (p.hosted k))
    (held : ∀ r ∈ rs, r.Held p) (token : Token) :
    Advances p rs (syncAll settings now rs ⟨p, token⟩).resources
      (syncAll settings now rs ⟨p, token⟩).world.provider := by
  unfold syncAll
  induction rs generalizing p token with
  | nil => exact .nil p
  | cons r rs inductionHypothesis =>
    obtain ⟨here, prepared⟩ := List.forall_mem_cons.mp prepared
    obtain ⟨own, held⟩ := List.forall_mem_cons.mp held
    have first := syncOne_advanced settings now here (consistent r.kind) own token
    have rest := runAll_cases (syncOne settings now) settings.continueOnError r rs ⟨p, token⟩
    generalize syncOne settings now r ⟨p, token⟩ = turn at first rest
    obtain ⟨r', e, failure, ⟨p', token'⟩⟩ := turn
    have consistent' := first.consistent consistent
    have held' : ∀ q ∈ rs, q.Held p' := fun q member => first.held (held q member)
    rcases rest with ⟨-, ran⟩ | ⟨-, ran⟩
    · rw [ran]
      exact .cons first (.refl consistent' held')
    · rw [ran]
      exact .cons first (inductionHypothesis prepared consistent' held' token')

/-! ## Turns that nothing cuts -/

/-- What was brought about was advanced. -/
theorem Brought.advanced {e : ReportEntry} (brought : Brought now p r e r' p')
    (consistent : Consistent (p.hosted r.kind)) : Advanced p r r' p' := by
  obtain ⟨rfl, -, moved⟩ := brought
  refine ⟨⟨_, rfl, rfl⟩, ?_, moved.others⟩
  show Encounter r.spec (p.simulator r.kind) (r.goal now p).identifier (p'.simulator r.kind)
  have hosted : (p'.simulator r.kind).hosted = _ := moved.hosted
  have serial : (p'.simulator r.kind).serial = _ := moved.serial
  cases found : r.spec.resource? (p.host r.kind) with
  | some h =>
    have there := (Spec.get?_of_resource? consistent found).2
    have title : (r.goal now p).title = h.title := by
      show (r.spec.origin now (p.simulator r.kind)).title = _
      rw [Spec.origin_of_resource? (w := p.simulator r.kind) found]
    have own : (r.goal now p).identifier = h.identifier := congrArg Prod.fst title
    refine .found found own (fun key => ?_) ?_
    · rw [hosted, own]
      exact (Tended.insert there title).titles key
    · rw [serial, Spec.nextSerial_of_resource? found]
  | none =>
    have title : (r.goal now p).title = (r.kind.identifier p.serial.next, r.name) := by
      show (r.spec.origin now (p.simulator r.kind)).title = _
      rw [Spec.origin_of_missing (w := p.simulator r.kind) found]
      rfl
    have new : (r.goal now p).identifier = r.kind.identifier p.serial.next := congrArg Prod.fst title
    refine .created found new ?_ (fun key other => ?_) ?_
    · rw [hosted, titleAt, Dict.get?_insert_self, Option.map_some, title, new]
      rfl
    · rw [hosted, Dict.get?_insert_of_ne _ _ other]
      rfl
    · rw [serial, Spec.nextSerial_of_missing found]

theorem Brings.advances {rs rs' : List Resource} {es : List ReportEntry}
    (brings : Brings now p rs es rs' p') (consistent : ∀ k, Consistent (p.hosted k)) :
    Advances p rs rs' p' := by
  induction brings with
  | nil p => exact .nil p
  | @cons _ _ _ r _ _ _ _ _ first _ inductionHypothesis =>
    exact .cons (first.advanced (consistent r.kind)) (inductionHypothesis (first.consistent consistent))

end DesiredState
