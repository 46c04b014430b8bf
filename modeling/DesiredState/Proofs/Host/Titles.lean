import DesiredState.Proofs.Host.Consistent

/-!
# Titles

The title of a hosted resource is its identifier and its name.  Whatever is found under a text is
found by titles alone, so whoever leaves the titles alone does not move what others find.

Contents:

* `Hosted.title`, `titleAt` — the titles, and what stands under a key of them.
* `Host.find?_congr` — titles decide what is found.
* `Spec.sought?` — what a sync finds of a specification.
* `Tended` — at most attributes and tags of one resource were changed.
* `Sound` — consistent hosts on which no name is used twice.
-/

namespace DesiredState

variable {k : Kind}

/-- Identifier and name of a hosted resource. -/
def Hosted.title (h : HostedOf k) : String × String := (h.identifier, h.name)

theorem Hosted.name_eq_of_title {h h' : HostedOf k} (same : h.title = h'.title) : h.name = h'.name :=
  congrArg Prod.snd same

/-- The title of what stands under a key. -/
def titleAt (hosted : Dict (HostedOf k)) (key : String) : Option (String × String) :=
  (hosted.get? key).map Hosted.title

section

variable {hosted hosted' : Dict (HostedOf k)} {key text : String}

theorem contains_eq_isSome_titleAt (hosted : Dict (HostedOf k)) (key : String) :
    hosted.contains key = (titleAt hosted key).isSome := by
  rw [Dict.contains, titleAt, Option.isSome_map]

/-- Where titles are the same there is something hosted of the same title. -/
theorem exists_of_titleAt_eq {h : HostedOf k} (same : titleAt hosted' key = titleAt hosted key)
    (there : hosted.get? key = some h) : ∃ h', hosted'.get? key = some h' ∧ h'.title = h.title := by
  refine Option.map_eq_some_iff.mp (same.trans ?_)
  rw [titleAt, there]
  rfl

theorem Consistent.of_titles (consistent : Consistent hosted)
    (titles : ∀ key, titleAt hosted' key = titleAt hosted key) : Consistent hosted' := by
  intro key h' found
  have title : titleAt hosted key = some h'.title := by
    rw [← titles, titleAt, found]
    rfl
  obtain ⟨h, there, same⟩ := Option.map_eq_some_iff.mp title
  obtain ⟨known, own⟩ := consistent key h there
  exact ⟨known, (congrArg Prod.fst same).symm.trans own⟩

/-! ## What is found -/

namespace Host

/-- The first resource of a name is found by its title. -/
theorem findValue?_name_eq (hosted : Dict (HostedOf k)) (name : String) :
    (hosted.findValue? fun h => h.name == name).map Hosted.identifier =
      ((hosted.entries.map fun e => (e.1, e.2.title)).find? fun e => e.2.2 == name).map
        fun e => e.2.1 := by
  rw [Dict.findValue?, Dict.values, List.find?_map, List.find?_map, Option.map_map, Option.map_map]
  rfl

theorem find?_congr (titles : ∀ key, titleAt hosted' key = titleAt hosted key) (text : String) :
    find? hosted' text = find? hosted text := by
  rw [find?, find?, findValue?_name_eq, findValue?_name_eq, Dict.map_entries_congr titles,
    contains_eq_isSome_titleAt, contains_eq_isSome_titleAt, titles]

theorem find?_of_contains (there : hosted.contains text = true) :
    find? hosted text = some text := by
  rw [find?, if_pos there]

/-- What is found under a text is hosted; it stands under the text itself, or has it as its name. -/
theorem of_find? (consistent : Consistent hosted) (found : find? hosted text = some key) :
    ∃ h, hosted.get? key = some h ∧
      (key = text ∨ hosted.contains text = false ∧ h.name = text) := by
  rw [find?] at found
  split at found
  next there =>
    obtain rfl := Option.some.inj found
    obtain ⟨h, there⟩ := Dict.contains_iff.mp there
    exact ⟨h, there, .inl rfl⟩
  next absent =>
    obtain ⟨h, named, rfl⟩ := Option.map_eq_some_iff.mp found
    obtain ⟨key, there⟩ := Dict.mem_values_iff.mp (List.mem_of_find?_eq_some named)
    obtain ⟨-, rfl⟩ := consistent key h there
    exact ⟨h, there, .inr ⟨by simpa using absent, by simpa using List.find?_some named⟩⟩

end Host

end

/-- The key of the resource that a sync finds: under the identifier, or else under the name. -/
def Spec.sought? (s : Spec k) (hosted : Dict (HostedOf k)) : Option String :=
  (if s.identifier = "" then none else Host.find? hosted s.identifier).or (Host.find? hosted s.name)

theorem Spec.sought?_congr {s : Spec k} {hosted hosted' : Dict (HostedOf k)}
    (titles : ∀ key, titleAt hosted' key = titleAt hosted key) :
    s.sought? hosted' = s.sought? hosted := by
  rw [sought?, sought?, Host.find?_congr titles, Host.find?_congr titles]

/-! ## One resource is tended -/

/-- What stands under a key kept its title, and all else stayed as it was. -/
structure Tended (key : String) (hosted hosted' : Dict (HostedOf k)) : Prop where
  title : titleAt hosted' key = titleAt hosted key
  others : ∀ key', key' ≠ key → hosted'.get? key' = hosted.get? key'

namespace Tended

variable {key : String} {hosted hosted' hosted'' : Dict (HostedOf k)} {h h' : HostedOf k}

theorem refl (key : String) (hosted : Dict (HostedOf k)) : Tended key hosted hosted :=
  ⟨rfl, fun _ _ => rfl⟩

theorem trans (first : Tended key hosted hosted') (second : Tended key hosted' hosted'') :
    Tended key hosted hosted'' where
  title := second.title.trans first.title
  others key' other := (second.others key' other).trans (first.others key' other)

theorem insert (there : hosted.get? key = some h) (same : h'.title = h.title) :
    Tended key hosted (hosted.insert key h') where
  title := by
    rw [titleAt, titleAt, Dict.get?_insert_self, there, Option.map_some, Option.map_some, same]
  others _ other := Dict.get?_insert_of_ne _ _ other

theorem titles (tended : Tended key hosted hosted') (key' : String) :
    titleAt hosted' key' = titleAt hosted key' := by
  by_cases own : key' = key
  · exact own ▸ tended.title
  · rw [titleAt, titleAt, tended.others key' own]

end Tended

/-! ## Names used once -/

/-- Resources stand under their own identifiers, and no two of them have the same name. -/
structure Sound (hosted : Dict (HostedOf k)) : Prop where
  consistent : Consistent hosted
  distinct : ∀ key key' h h', hosted.get? key = some h → hosted.get? key' = some h' →
    h.name = h'.name → key = key'

/-- Whether a host is sound is a question of its titles. -/
theorem sound_iff_titles {hosted : Dict (HostedOf k)} :
    Sound hosted ↔ (∀ key title, titleAt hosted key = some title → key ≠ "" ∧ title.1 = key) ∧
      ∀ key key' title title', titleAt hosted key = some title → titleAt hosted key' = some title' →
        title.2 = title'.2 → key = key' := by
  constructor
  · rintro ⟨consistent, distinct⟩
    constructor
    · intro key title found
      obtain ⟨h, there, rfl⟩ := Option.map_eq_some_iff.mp found
      exact consistent key h there
    · intro key key' title title' found found' same
      obtain ⟨h, there, rfl⟩ := Option.map_eq_some_iff.mp found
      obtain ⟨h', there', rfl⟩ := Option.map_eq_some_iff.mp found'
      exact distinct key key' h h' there there' same
  · rintro ⟨own, distinct⟩
    constructor
    · exact fun key h there => own key h.title (Option.map_eq_some_iff.mpr ⟨h, there, rfl⟩)
    · exact fun key key' h h' there there' => distinct key key' h.title h'.title
        (Option.map_eq_some_iff.mpr ⟨h, there, rfl⟩) (Option.map_eq_some_iff.mpr ⟨h', there', rfl⟩)

theorem Sound.of_titles {hosted hosted' : Dict (HostedOf k)} (sound : Sound hosted)
    (titles : ∀ key, titleAt hosted' key = titleAt hosted key) : Sound hosted' := by
  rw [sound_iff_titles] at sound ⊢
  simpa only [titles] using sound

theorem name_ne_of_find?_eq_none {hosted : Dict (HostedOf k)} {name key : String}
    {title : String × String} (free : Host.find? hosted name = none)
    (found : titleAt hosted key = some title) : title.2 ≠ name := by
  obtain ⟨h, there, rfl⟩ := Option.map_eq_some_iff.mp found
  exact (Host.find?_eq_none_iff.mp free).2 h (Dict.mem_values_iff.mpr ⟨key, there⟩)

/-- A new resource stands under its identifier, and has a name that no other one has. -/
theorem Sound.added {hosted hosted' : Dict (HostedOf k)} {key name : String} (sound : Sound hosted)
    (free : Host.find? hosted name = none) (known : key ≠ "")
    (new : titleAt hosted' key = some (key, name))
    (others : ∀ key', key' ≠ key → titleAt hosted' key' = titleAt hosted key') : Sound hosted' := by
  rw [sound_iff_titles] at sound ⊢
  have only : ∀ {title}, titleAt hosted' key = some title → title = (key, name) :=
    fun there => Option.some.inj (there.symm.trans new)
  constructor
  · intro key' title there
    by_cases own : key' = key
    · subst own
      rw [only there]
      exact ⟨known, rfl⟩
    · exact sound.1 key' title (others key' own ▸ there)
  · intro key₁ key₂ title₁ title₂ there₁ there₂ same
    by_cases own₁ : key₁ = key <;> by_cases own₂ : key₂ = key
    · exact own₁.trans own₂.symm
    · subst own₁
      rw [others key₂ own₂] at there₂
      rw [only there₁] at same
      exact absurd same.symm (name_ne_of_find?_eq_none free there₂)
    · subst own₂
      rw [others key₁ own₁] at there₁
      rw [only there₂] at same
      exact absurd same (name_ne_of_find?_eq_none free there₁)
    · exact sound.2 key₁ key₂ title₁ title₂ (others key₁ own₁ ▸ there₁) (others key₂ own₂ ▸ there₂) same

end DesiredState
