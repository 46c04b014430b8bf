import DesiredState.Proofs.Fleet.Advances
import DesiredState.Record.Run

/-!
# Record and provider in accord

What is recorded and what is hosted agree: each recorded resource is hosted under its identifier and
its name, and each hosted one is recorded, unless it is astray.  A deletion that gives up a resource
makes it astray, and so does its creation until it is recorded.  Every turn of a run that syncs keeps
the two in accord, however far it comes, and so does a whole run; what it has learnt of is astray no
longer.

Identifiers are numbered by the provider.  A number that was never used before gives an identifier
that nothing is hosted under, and as no name is an identifier, a resource is found by its name only if
that is its name.

Contents:

* `Resource.key`, `mem_put_iff` — the kind and name under which a resource is recorded.
* `Accord`, `Numbered`, `Natural` — the invariant, and what it takes to keep it.
* `Accord.put`, `Accord.host` — a resource is recorded, and a new one is hosted.
* `Advanced.accord`, `Advances.accord` — syncing.
-/

namespace DesiredState

/-! ## Kinds and names -/

namespace Resource

/-- The kind and the name, by which a resource is recorded. -/
def key (r : Resource) : Kind × String := (r.kind, r.name)

/-- The key follows from what a specification asks for. -/
theorem key_eq_of_intent {k : Kind} {s t : Spec k} (same : s.intent = t.intent) :
    (⟨k, s⟩ : Resource).key = (⟨k, t⟩ : Resource).key :=
  congrArg (Prod.mk k) (Spec.name_eq_of_intent same)

theorem isNamed_iff {r : Resource} {k : Kind} {name : String} :
    r.isNamed k name = true ↔ r.key = (k, name) := by
  simp [isNamed, key]

theorem sameAs_iff {r q : Resource} : r.sameAs q = true ↔ q.key = r.key := isNamed_iff

end Resource

open RecordedState (put)

theorem mem_put_iff {rs : List Resource} {r q : Resource} :
    q ∈ put rs r ↔ q ∈ rs ∧ q.key ≠ r.key ∨ q = r := by
  simp [put, ← Resource.sameAs_iff]

theorem nodup_put {rs : List Resource} {r : Resource} (distinct : (rs.map Resource.key).Nodup) :
    ((put rs r).map Resource.key).Nodup := by
  rw [put, List.map_append, List.nodup_append]
  refine ⟨(List.filter_sublist.map Resource.key).nodup distinct, List.nodup_singleton _, ?_⟩
  rintro a member b single rfl
  obtain rfl := List.mem_singleton.mp single
  obtain ⟨q, kept, same⟩ := List.mem_map.mp member
  have apart := (List.mem_filter.mp kept).2
  simp [Resource.sameAs_iff.mpr same] at apart

/-! ## The invariant -/

/-- What is recorded and what is hosted agree, up to hosted resources that are astray. -/
structure Accord (astray : Kind × String → Prop) (rs : List Resource) (p : Provider) : Prop where
  consistent : ∀ k, Consistent (p.hosted k)
  named : ∀ {k key key' h h'}, (p.hosted k).get? key = some h → (p.hosted k).get? key' = some h' →
    h.name = h'.name → key = key'
  distinct : (rs.map Resource.key).Nodup
  hosts : ∀ r ∈ rs, ∃ h, (p.hosted r.kind).get? r.identifier = some h ∧ h.name = r.name
  recorded : ∀ {k key h}, (p.hosted k).get? key = some h →
    (∃ r ∈ rs, r.key = (k, h.name) ∧ r.identifier = key) ∨ astray (k, h.name)

/-- Every identifier was made from a number that is used, and every name is one of some names. -/
structure Numbered (used : Nat → Prop) (names : Kind × String → Prop) (p : Provider) : Prop where
  keyed : ∀ {k key h}, (p.hosted k).get? key = some h → ∃ n, used n ∧ key = k.identifier n
  named : ∀ {k key h}, (p.hosted k).get? key = some h → names (k, h.name)

/-- No name is an identifier. -/
def Natural (used : Nat → Prop) (names : Kind × String → Prop) : Prop :=
  ∀ n, used n → ∀ k name, names (k, name) → name ≠ k.identifier n

/-- The resource is recorded with its identifier, or it has none and is not recorded. -/
inductive Resource.Adopted (rs : List Resource) (r : Resource) : Prop
  | known (q : Resource) (member : q ∈ rs) (same : q.key = r.key)
      (identifier : q.identifier = r.identifier)
  | unknown (none : r.identifier = "") (absent : ∀ q ∈ rs, q.key ≠ r.key)

variable {astray astray' : Kind × String → Prop} {used used' : Nat → Prop}
  {names : Kind × String → Prop} {rs : List Resource} {p p' p'' : Provider} {r r' : Resource}

theorem Accord.mono (accord : Accord astray rs p) (more : ∀ key, astray key → astray' key) :
    Accord astray' rs p where
  consistent := accord.consistent
  named := accord.named
  distinct := accord.distinct
  hosts := accord.hosts
  recorded there := (accord.recorded there).imp id (more _)

theorem Accord.sound (accord : Accord astray rs p) (k : Kind) : Sound (p.hosted k) :=
  ⟨accord.consistent k, fun _ _ _ _ => accord.named⟩

theorem Numbered.mono (numbered : Numbered used names p) (more : ∀ n, used n → used' n) :
    Numbered used' names p :=
  ⟨fun there => (numbered.keyed there).imp fun _ keyed => ⟨more _ keyed.1, keyed.2⟩, numbered.named⟩

theorem Numbered.congr (numbered : Numbered used names p) (same : ∀ k, p'.hosted k = p.hosted k) :
    Numbered used names p' := by
  refine ⟨fun {k key h} => ?_, fun {k key h} => ?_⟩
  · rw [same k]
    exact numbered.keyed
  · rw [same k]
    exact numbered.named

theorem Natural.mono (natural : Natural used' names) (fewer : ∀ n, used n → used' n) :
    Natural used names :=
  fun n member => natural n (fewer n member)

/-- A recorded identifier is that of a hosted resource of the same name. -/
theorem Accord.of_adopted (accord : Accord astray rs p) (adopted : r.Adopted rs)
    (known : r.identifier ≠ "") :
    ∃ h, (p.hosted r.kind).get? r.identifier = some h ∧ h.name = r.name := by
  cases adopted with
  | unknown none => exact absurd none known
  | known q member same identifier =>
    obtain ⟨h, there, name⟩ := accord.hosts q member
    obtain ⟨k, s⟩ := q
    obtain ⟨rfl, named⟩ := Prod.mk.inj same
    exact ⟨h, identifier ▸ there, name.trans named⟩

theorem Accord.held (accord : Accord astray rs p) (adopted : r.Adopted rs) : r.Held p := by
  by_cases known : r.identifier = ""
  · exact .inl known
  · obtain ⟨h, there, -⟩ := accord.of_adopted adopted known
    exact .inr (Dict.contains_iff.mpr ⟨h, there⟩)

/-- What is found under a name has that name. -/
theorem Numbered.name_of_current? (numbered : Numbered used names p) (natural : Natural used names)
    {k : Kind} (consistent : Consistent (p.hosted k)) {name : String} (natural' : names (k, name))
    {h : HostedOf k} (found : (p.host k).current? name = some h) : h.name = name := by
  obtain ⟨key, found, there⟩ := Option.bind_eq_some_iff.mp found
  obtain ⟨h', there', rfl | ⟨-, named⟩⟩ := Host.of_find? consistent found
  · obtain ⟨n, member, same⟩ := numbered.keyed there'
    exact absurd same (natural n member k key natural')
  · obtain rfl := Option.some.inj (there'.symm.trans there)
    exact named

/-- The resource that a turn finds has the name of its specification. -/
theorem Accord.name_of_resource? (accord : Accord astray rs p) (adopted : r.Adopted rs)
    (numbered : Numbered used names p) (natural : Natural used names) (name : names r.key)
    {h : HostedOf r.kind} (found : r.spec.resource? (p.host r.kind) = some h) : h.name = r.name := by
  have consistent := accord.consistent r.kind
  by_cases known : r.identifier = ""
  · -- Without an identifier it was found by its name, which might be the identifier of another one.
    have absent : (p.hosted r.kind).get? r.spec.identifier = none := by
      rw [show r.spec.identifier = "" from known]
      exact consistent.get?_empty_text
    rw [Spec.resource?_of_absent absent] at found
    exact numbered.name_of_current? natural consistent name found
  · obtain ⟨h', there, named⟩ := accord.of_adopted adopted known
    rw [Spec.resource?_of_get? there] at found
    exact Option.some.inj found ▸ named

/-- Where a turn finds no resource, none has the name of its specification. -/
theorem find?_of_resource?_eq_none (consistent : Consistent (p.hosted r.kind))
    (missing : r.spec.resource? (p.host r.kind) = none) :
    Host.find? (p.hosted r.kind) r.name = none := by
  obtain ⟨-, nameless⟩ := Option.or_eq_none_iff.mp missing
  have present := Host.isSome_find? consistent r.name
  rw [show (p.host r.kind).current? r.name = none from nameless] at present
  exact Option.isNone_iff_eq_none.mp (Option.isSome_eq_false_iff.mp present)

/-! ## Hosting and recording -/

/-- The accord is a question of the titles of what is hosted. -/
theorem Accord.of_titles (accord : Accord astray rs p)
    (titles : ∀ k key, titleAt (p'.hosted k) key = titleAt (p.hosted k) key) : Accord astray rs p' where
  consistent k := (accord.consistent k).of_titles (titles k)
  named := ((accord.sound _).of_titles (titles _)).distinct _ _ _ _
  distinct := accord.distinct
  hosts r member := by
    obtain ⟨h, there, name⟩ := accord.hosts r member
    obtain ⟨h', there', title⟩ := exists_of_titleAt_eq (titles r.kind r.identifier) there
    exact ⟨h', there', (Hosted.name_eq_of_title title).trans name⟩
  recorded there := by
    obtain ⟨h, before, title⟩ := exists_of_titleAt_eq (titles _ _).symm there
    rw [← Hosted.name_eq_of_title title]
    exact accord.recorded before

theorem Accord.congr (accord : Accord astray rs p) (same : ∀ k, p'.hosted k = p.hosted k) :
    Accord astray rs p' :=
  accord.of_titles fun k key => by rw [same k]

/-- What is hosted is recorded, and astray no longer. -/
theorem Accord.put (accord : Accord astray rs p) {q : Resource} {h : HostedOf q.kind}
    (there : (p.hosted q.kind).get? q.identifier = some h) (name : h.name = q.name) :
    Accord (fun key => astray key ∧ key ≠ q.key) (put rs q) p where
  consistent := accord.consistent
  named := accord.named
  distinct := nodup_put accord.distinct
  hosts r member := by
    rcases mem_put_iff.mp member with ⟨member, -⟩ | rfl
    · exact accord.hosts r member
    · exact ⟨h, there, name⟩
  recorded := by
    intro k key h' there'
    by_cases own : (k, h'.name) = q.key
    · obtain ⟨rfl, name'⟩ := Prod.mk.inj own
      exact .inl ⟨q, mem_put_iff.mpr (.inr rfl), own.symm,
        accord.named there there' (name.trans name'.symm)⟩
    · refine (accord.recorded there').imp ?_ fun gone => ⟨gone, own⟩
      rintro ⟨r, member, same, identifier⟩
      exact ⟨r, mem_put_iff.mpr (.inl ⟨member, same.trans_ne own⟩), same, identifier⟩

/-- What is new is hosted under an identifier and a name that were free, and is astray. -/
theorem Accord.host (accord : Accord astray rs p) {k : Kind} {identifier name : String}
    (free : Host.find? (p.hosted k) name = none) (known : identifier ≠ "")
    (absent : (p.hosted k).get? identifier = none)
    (new : titleAt (p'.hosted k) identifier = some (identifier, name))
    (others : ∀ key, key ≠ identifier → (p'.hosted k).get? key = (p.hosted k).get? key)
    (same : ∀ k', k' ≠ k → p'.hosted k' = p.hosted k') :
    Accord (fun key => astray key ∨ key = (k, name)) rs p' := by
  have sound (k') : Sound (p'.hosted k') := by
    by_cases own : k' = k
    · subst own
      exact (accord.sound k').added free known new fun key other => by
        rw [titleAt, titleAt, others key other]
    · rw [same k' own]
      exact accord.sound k'
  have before {k' key} (apart : k' = k → key ≠ identifier) :
      (p'.hosted k').get? key = (p.hosted k').get? key := by
    by_cases own : k' = k
    · subst own
      exact others key (apart rfl)
    · rw [same k' own]
  refine ⟨fun k' => (sound k').consistent, (sound _).distinct _ _ _ _, accord.distinct, ?_, ?_⟩
  · intro r member
    obtain ⟨h, there, named⟩ := accord.hosts r member
    refine ⟨h, (before ?_).trans there, named⟩
    rintro rfl rfl
    cases absent.symm.trans there
  · intro k' key h there
    by_cases own : k' = k ∧ key = identifier
    · obtain ⟨rfl, rfl⟩ := own
      rw [titleAt, there] at new
      have title : h.title = (key, name) := Option.some.inj new
      exact .inr (.inr (congrArg (Prod.mk k') (congrArg Prod.snd title)))
    · rw [before fun kind key => own ⟨kind, key⟩] at there
      exact (accord.recorded there).imp id .inl

/-! ## One turn of a run that syncs -/

/-- The record with what is known of a resource, if that is known to exist. -/
def recordedFrom (rs : List Resource) (r : Resource) : List Resource :=
  if r.identifier = "" then rs else put rs r

/-- The numbers that are used once some more were given away. -/
def UsedWith (used : Nat → Prop) (start last : Numbering) : Nat → Prop :=
  fun n => used n ∨ start.Gives last n

/-- The numbers that are given away were never used, and none is given away twice. -/
structure Fresh (used : Nat → Prop) (start last : Numbering) : Prop where
  unused : ∀ n, start.Gives last n → ¬used n
  distinct : start.Distinct last

/-- What holds before the turn of a resource. -/
structure Ready (astray : Kind × String → Prop) (used : Nat → Prop) (names : Kind × String → Prop)
    (rs : List Resource) (p : Provider) (r : Resource) : Prop where
  accord : Accord astray rs p
  numbered : Numbered used names p
  natural : Natural used names
  name : names r.key
  adopted : r.Adopted rs

namespace Advanced

variable (advanced : Advanced p r r' p')
include advanced

theorem key_eq : r'.key = r.key := by
  obtain ⟨s, rfl, same⟩ := advanced.intent
  exact Resource.key_eq_of_intent same

theorem numbered (ready : Ready astray used names rs p r) :
    Numbered (UsedWith used p.serial p'.serial) names p' where
  keyed there := by
    rcases advanced.hosted_cases there with ⟨h, before, -⟩ | ⟨serial, new, -⟩
    · obtain ⟨n, member, same⟩ := ready.numbered.keyed before
      exact ⟨n, .inl member, same⟩
    · exact ⟨_, .inr (serial ▸ Numbering.gives_next le_rfl), new⟩
  named := by
    intro k key h' there
    rcases advanced.hosted_cases there with ⟨h, before, title⟩ | ⟨-, -, rfl, title⟩
    · rw [← Hosted.name_eq_of_title title]
      exact ready.numbered.named before
    · rw [show h'.name = r.name from congrArg Prod.snd title]
      exact ready.name

end Advanced

/-- Nothing is hosted under an identifier that is made from a new number. -/
theorem Numbered.get?_eq_none (numbered : Numbered used names p) (fresh : Fresh used p.serial p'.serial)
    (serial : p'.serial = p.serial.succ) (k : Kind) :
    (p.hosted k).get? (k.identifier p.serial.next) = none := by
  refine Option.eq_none_iff_forall_ne_some.mpr fun h there => ?_
  obtain ⟨n, member, same⟩ := numbered.keyed there
  obtain rfl := k.identifier_injective same
  exact fresh.unused _ (serial ▸ Numbering.gives_next le_rfl) member

theorem titles_eq {k : Kind}
    (titles : ∀ key, titleAt (p'.hosted k) key = titleAt (p.hosted k) key)
    (others : ∀ k', k' ≠ k → p'.hosted k' = p.hosted k') (k' : Kind) (key : String) :
    titleAt (p'.hosted k') key = titleAt (p.hosted k') key := by
  by_cases own : k' = k
  · subst own
    exact titles key
  · rw [others k' own]

/-- A turn keeps record and provider in accord; what it has learnt of is astray no longer. -/
theorem Advanced.accord (advanced : Advanced p r r' p') (ready : Ready astray used names rs p r)
    (fresh : Fresh used p.serial p'.serial) :
    Accord (fun key => astray key ∧ ¬(r'.key = key ∧ r'.identifier ≠ "")) (recordedFrom rs r') p' := by
  obtain ⟨accord, numbered, natural, name, adopted⟩ := ready
  have consistent := accord.consistent r.kind
  have key := advanced.key_eq
  have others := advanced.others
  obtain ⟨⟨s, rfl, -⟩, encounter, -⟩ := advanced
  have learnt {key : Kind × String} (other : key ≠ (⟨r.kind, s⟩ : Resource).key) :
      ¬((⟨r.kind, s⟩ : Resource).key = key ∧ s.identifier ≠ "") := fun own => other own.1.symm
  cases encounter with
  | missed _ none titles _ =>
    rw [recordedFrom, if_pos none]
    exact (accord.of_titles (titles_eq titles others)).mono fun _ gone =>
      ⟨gone, fun own => own.2 none⟩
  | @found h there same titles _ =>
    have named := accord.name_of_resource? adopted numbered natural name there
    have hosted := (Spec.get?_of_resource? consistent there).2
    obtain ⟨h', there', title⟩ := exists_of_titleAt_eq (titles h.identifier) hosted
    have known := (consistent _ h hosted).1
    rw [recordedFrom, if_neg (same ▸ known)]
    refine ((accord.of_titles (titles_eq titles others)).put (same ▸ there') ?_).mono
      fun _ gone => ⟨gone.1, learnt gone.2⟩
    exact (Hosted.name_eq_of_title title).trans (named.trans (congrArg Prod.snd key).symm)
  | created missing new title others' serial =>
    have known : (⟨r.kind, s⟩ : Resource).identifier ≠ "" := new ▸ r.kind.identifier_ne_empty _
    have absent := new ▸ numbered.get?_eq_none fresh serial r.kind
    obtain ⟨h, there, title'⟩ := Option.map_eq_some_iff.mp title
    rw [recordedFrom, if_neg known]
    refine ((accord.host (find?_of_resource?_eq_none consistent missing) known absent title others'
      others).put there ((congrArg Prod.snd title').trans (congrArg Prod.snd key).symm)).mono ?_
    rintro _ ⟨gone | rfl, other⟩
    · exact ⟨gone, learnt other⟩
    · exact absurd key.symm other

/-- A resource of another kind or name does not stand under the identifier of the turn. -/
theorem Advanced.apart (advanced : Advanced p r r' p') (ready : Ready astray used names rs p r)
    (fresh : Fresh used p.serial p'.serial) {k : Kind} {key : String} {h : HostedOf k}
    (there : (p.hosted k).get? key = some h) (other : (k, h.name) ≠ r.key) :
    k = r.kind → key ≠ r'.identifier := by
  rintro rfl rfl
  have consistent := ready.accord.consistent r.kind
  cases advanced.encounter with
  | missed _ none _ _ => exact (consistent _ h there).1 none
  | found found same _ _ =>
    have there' := (Spec.get?_of_resource? consistent found).2
    obtain rfl := Option.some.inj (there'.symm.trans (same ▸ there))
    exact other (congrArg (Prod.mk r.kind)
      (ready.accord.name_of_resource? ready.adopted ready.numbered ready.natural ready.name found))
  | created _ new _ _ serial =>
    rw [new] at there
    exact nomatch (ready.numbered.get?_eq_none fresh serial r.kind).symm.trans there

/-! ## Whole runs that sync -/

/-- What holds of a list of resources before their turns. -/
structure Pending (names : Kind × String → Prop) (rs qs : List Resource) : Prop where
  distinct : (qs.map Resource.key).Nodup
  each : ∀ q ∈ qs, q.spec.Prepared ∧ names q.key ∧ q.Adopted rs

namespace Pending

variable {qs : List Resource} (pending : Pending names rs (r :: qs))
include pending

/-- A turn that leaves the record of other kinds and names alone lets the others wait for theirs. -/
theorem others {rs' : List Resource} (same : ∀ q, q.key ≠ r.key → (q ∈ rs' ↔ q ∈ rs)) :
    Pending names rs' qs := by
  obtain ⟨apart, distinct⟩ := List.nodup_cons.mp pending.distinct
  refine ⟨distinct, fun q member => ?_⟩
  obtain ⟨prepared, name, adopted⟩ := pending.each q (List.mem_cons_of_mem r member)
  have other : q.key ≠ r.key := fun eq => apart (List.mem_map.mpr ⟨q, member, eq⟩)
  refine ⟨prepared, name, ?_⟩
  cases adopted with
  | known q' member' key identifier =>
    exact .known q' ((same q' (key ▸ other)).mpr member') key identifier
  | unknown none absent =>
    refine .unknown none fun q' member' key => ?_
    exact absent q' ((same q' (key ▸ other)).mp member') key

theorem tail (same : r'.key = r.key) : Pending names (recordedFrom rs r') qs := by
  refine pending.others fun q other => ?_
  unfold recordedFrom
  split
  · rfl
  · refine mem_put_iff.trans ⟨?_, fun member => .inl ⟨member, same ▸ other⟩⟩
    rintro (⟨member, -⟩ | rfl)
    · exact member
    · exact absurd same other

end Pending

section

variable {start middle last : Numbering}

theorem usedWith_usedWith_iff (early : start ≤ middle) (late : middle ≤ last) (n : Nat) :
    UsedWith (UsedWith used start middle) middle last n ↔ UsedWith used start last n := by
  unfold UsedWith
  rw [Numbering.gives_iff early late, or_assoc]

theorem Fresh.left (fresh : Fresh used start last) (early : start ≤ middle) (late : middle ≤ last) :
    Fresh used start middle where
  unused n given := fresh.unused n ((Numbering.gives_iff early late).mpr (.inl given))
  distinct := fresh.distinct.left late

theorem Fresh.right (fresh : Fresh used start last) (early : start ≤ middle) (late : middle ≤ last) :
    Fresh (UsedWith used start middle) middle last where
  unused n given := by
    rintro (before | before)
    · exact fresh.unused n ((Numbering.gives_iff early late).mpr (.inr given)) before
    · exact fresh.distinct.not_gives early before given
  distinct := fresh.distinct.right early

end

/-- The identifier of what has this kind and name is known. -/
def Learnt (qs : List Resource) (key : Kind × String) : Prop :=
  ∃ q ∈ qs, q.key = key ∧ q.identifier ≠ ""

theorem learnt_cons_iff {q : Resource} {qs : List Resource} {key : Kind × String} :
    Learnt (q :: qs) key ↔ (q.key = key ∧ q.identifier ≠ "") ∨ Learnt qs key := by
  simp only [Learnt, List.mem_cons, or_and_right, exists_or, exists_eq_left]

theorem Advances.map_key {qs qs' : List Resource} (advances : Advances p qs qs' p') :
    qs'.map Resource.key = qs.map Resource.key := by
  induction advances with
  | nil p => rfl
  | cons first _ inductionHypothesis =>
    rw [List.map_cons, List.map_cons, first.key_eq, inductionHypothesis]

/-- However far a run that syncs comes, it keeps record and provider in accord; what it has learnt of
is astray no longer. -/
theorem Advances.accord {qs qs' : List Resource} (advances : Advances p qs qs' p')
    (accord : Accord astray rs p) (numbered : Numbered used names p) (pending : Pending names rs qs)
    (fresh : Fresh used p.serial p'.serial)
    (natural : Natural (UsedWith used p.serial p'.serial) names) :
    Accord (fun key => astray key ∧ ¬Learnt qs' key) (qs'.foldl recordedFrom rs) p' ∧
      Numbered (UsedWith used p.serial p'.serial) names p' := by
  -- By induction on the turns: what is used up to a turn grows with it, and what is astray shrinks.
  induction advances generalizing rs used astray with
  | nil p =>
    refine ⟨accord.mono fun key gone => ⟨gone, ?_⟩, numbered.mono fun _ => .inl⟩
    rintro ⟨q, member, -⟩
    exact absurd member List.not_mem_nil
  | cons first rest inductionHypothesis =>
    have early := first.serial_le
    have late := rest.serial_le
    obtain ⟨-, name, adopted⟩ := pending.each _ List.mem_cons_self
    have ready : Ready astray used names rs _ _ :=
      ⟨accord, numbered, natural.mono fun _ => .inl, name, adopted⟩
    obtain ⟨accord', numbered'⟩ := inductionHypothesis
      (first.accord ready (fresh.left early late)) (first.numbered ready) (pending.tail first.key_eq)
      (fresh.right early late) (natural.mono fun n => (usedWith_usedWith_iff early late n).mp)
    refine ⟨accord'.mono ?_, numbered'.mono fun n => (usedWith_usedWith_iff early late n).mp⟩
    rintro key ⟨⟨gone, own⟩, others⟩
    exact ⟨gone, fun learnt => (learnt_cons_iff.mp learnt).elim own others⟩

end DesiredState
