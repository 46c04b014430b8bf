import DesiredState.Proofs.Resource.Settled

/-!
# Differences made in part

A difference is a list of changes, and any of them can be left out.  What was made is gone from the
difference and what was left out stays in it, whatever the order of making; so a sync that broke off
between two changes is taken up where it stopped.

Contents:

* `MadeInPart` — what some changes of a difference come to.
* `diff_after_part` — every part of every difference comes to just that.
-/

namespace DesiredState

variable {k : Kind}

theorem Hosted.foldl_apply (h : HostedOf k) (cs : List k.Change) :
    cs.foldl Hosted.apply h = h.applyAll cs := by
  induction cs generalizing h with
  | nil => rfl
  | cons c cs inductionHypothesis => exact inductionHypothesis (h.apply c)

/-- What it comes to when some changes of the difference between a specification and a hosted
resource are made, one after the other as they are listed. -/
structure MadeInPart (s : Spec k) (h : HostedOf k) (part : List k.Change) (h' : HostedOf k) :
    Prop where
  distinct : (s.diff h).Nodup
  rest : s.diff h' = (s.diff h).filter fun c => c ∉ part
  anyOrder : ∀ order : List k.Change, order.Perm part → order.foldl Hosted.apply h = h'
  identifier : h'.identifier = h.identifier
  name : h'.name = h.name
  tags : h'.tags = h.tags
  others : k.Untouched part h.attributes h'.attributes
  whole : part.Perm (s.diff h) → s.diff h' = []
  allButOne : ∀ c, (c :: part).Perm (s.diff h) → s.diff h' = [c]

namespace Spec

theorem nodup_diff (s : Spec k) (h : HostedOf k) : (s.diff h).Nodup :=
  k.changeLaws.nodup_diff s.desired h.attributes

variable {s : Spec k} {h : HostedOf k} {part : List k.Change}

theorem diff_applyAll (distinct : part.Nodup) (within : part ⊆ s.diff h) :
    s.diff (h.applyAll part) = (s.diff h).filter fun c => c ∉ part :=
  k.changeLaws.diff_applyAll distinct within

theorem applyAll_eq_of_perm {order : List k.Change} (perm : order.Perm part)
    (distinct : part.Nodup) (within : part ⊆ s.diff h) : h.applyAll order = h.applyAll part := by
  have slots := k.changeLaws.nodup_slots_of_subset distinct within
  have slots' := (perm.map k.changeLaws.slot).nodup_iff.mpr slots
  simp only [Hosted.applyAll, k.changeLaws.applyAll_perm perm slots' h.attributes]

end Spec

/-- A list without repetition that falls into two parts, without the first one, is the second one. -/
theorem filter_not_mem_eq {α : Type} [DecidableEq α] {cs xs ys : List α} (distinct : cs.Nodup)
    (part : ys.Sublist cs) (perm : (xs ++ ys).Perm cs) : cs.filter (· ∉ xs) = ys := by
  -- Both parts are filtered: of the first one nothing is left, of the second one everything.
  have apart := List.nodup_append.mp (perm.nodup_iff.mpr distinct)
  have others : ys.filter (· ∉ xs) = ys := by
    refine List.filter_eq_self.mpr fun y member => ?_
    simpa using fun there => apart.2.2 y there y member rfl
  have none : xs.filter (· ∉ xs) = [] := by simp
  have same := perm.filter (· ∉ xs)
  rw [List.filter_append, none, others, List.nil_append] at same
  -- The permutation gives the length, and a part of full length is the whole, in the same order.
  have sublist := part.filter (· ∉ xs)
  rw [others] at sublist
  exact (sublist.eq_of_length same.length_eq).symm

/-- Whatever is made of a difference, and in whatever order, exactly the rest of it remains, and
nothing has changed but what the changes stand for. -/
theorem diff_after_part {s : Spec k} {h : HostedOf k} {part : List k.Change}
    (within : part.Subperm (s.diff h)) : MadeInPart s h part (part.foldl Hosted.apply h) := by
  have distinct : part.Nodup := by
    obtain ⟨part', perm, sublist⟩ := within
    exact perm.nodup_iff.mp (sublist.nodup (s.nodup_diff h))
  have rest := Spec.diff_applyAll distinct within.subset
  rw [Hosted.foldl_apply]
  exact {
    distinct := s.nodup_diff h
    rest := rest
    anyOrder := fun order perm => by
      rw [Hosted.foldl_apply, Spec.applyAll_eq_of_perm perm distinct within.subset]
    identifier := rfl
    name := rfl
    tags := rfl
    others := k.frameLaws.applyAll part h.attributes
    whole := fun perm => by
      rw [rest, List.filter_eq_nil_iff]
      intro c wanted
      simp [perm.mem_iff.mpr wanted]
    allButOne := fun c perm => by
      have left : [c].Sublist (s.diff h) :=
        List.singleton_sublist.mpr (perm.mem_iff.mp List.mem_cons_self)
      rw [rest, filter_not_mem_eq (s.nodup_diff h) left ((List.perm_append_singleton ..).trans perm)] }

/-! ## A key that differs in three ways -/

namespace Sample

/-- A key with an old description that can neither be used nor rotates. -/
def idleKey : HostedOf .cryptoKey :=
  ⟨"key-7", "alias/ledger", .empty, ⟨"arn:key-7", "old", .symmetricDefault, false, false⟩⟩

def livelyKey : Spec .cryptoKey :=
  .ofDesired .cryptoKey "alias/ledger"
    ⟨"new", .encryptDecrypt, .symmetricDefault, some true, true, none⟩

/-- Two of the three changes, the last one first. -/
def twoChanges : List (Kind.Change .cryptoKey) := [.rotation true, .description "new"]

end Sample

theorem diff_after_part_key :
    Sample.twoChanges.Subperm (Sample.livelyKey.diff Sample.idleKey) ∧
      MadeInPart Sample.livelyKey Sample.idleKey Sample.twoChanges
        (Sample.twoChanges.foldl Hosted.apply Sample.idleKey) :=
  ⟨by decide, diff_after_part (by decide)⟩

end DesiredState
