import DesiredState.Files.FileTree

/-!
# Files in trees

Where a path leads depends on the folders of a tree only, so whoever writes a text where no folder is
changes what is found at that one place and moves no path.

Contents:

* `seen?` — what is found at the end of a path.
* `entry?_put`, `entry?_erase` — the places of a tree.
* `place?_congr` — paths depend on the folders.
* `seen?_makeFolders` — making folders hides nothing.
* `seen?_write`, `seen?_write_of_ne`, `seen?_move` — what is found after a text was written or moved.
-/

namespace DesiredState.FileTree

variable {t t' : FileTree} {working place : List String} {p q : Path} {text : String}

/-- What is found at the end of a path. -/
def seen? (t : FileTree) (working : List String) (p : Path) : Option FileEntry :=
  (t.place? working p).bind t.entry?

/-! ## Places -/

theorem lookup_filter (entries : List (List String × FileEntry)) (place q : List String) :
    (entries.filter (·.1 ≠ place)).lookup q = if q = place then none else entries.lookup q := by
  induction entries with
  | nil => simp
  | cons e rest inductionHypothesis =>
    by_cases gone : e.1 = place
    · rw [List.filter_cons_of_neg (by simpa using gone), inductionHypothesis]
      by_cases same : q = place
      · rw [if_pos same, if_pos same]
      · have apart : (q == e.1) = false := by simpa [gone] using same
        rw [if_neg same, if_neg same, List.lookup_cons, apart]
    · rw [List.filter_cons_of_pos (by simpa using gone), List.lookup_cons, List.lookup_cons,
        inductionHypothesis]
      by_cases here : q = e.1
      · simp [here, gone]
      · have apart : (q == e.1) = false := by simpa using here
        simp [apart]

theorem entry?_put (t : FileTree) {place : List String} (inner : place ≠ []) (e : FileEntry)
    (q : List String) : entry? (t.put place e) q = if q = place then some e else t.entry? q := by
  by_cases same : q = place
  · subst same
    simp [ entry?, put, inner]
  · have apart : (q == place) = false := by simpa using same
    simp only [ entry?, put, List.lookup_cons, apart, lookup_filter, if_neg same]

theorem entry?_erase (t : FileTree) {place : List String} (inner : place ≠ []) (q : List String) :
    entry? (t.erase place) q = if q = place then none else t.entry? q := by
  by_cases same : q = place
  · subst same
    simp only [ entry?, erase, lookup_filter, List.isEmpty_iff, inner, if_false, if_true]
  · simp only [ entry?, erase, lookup_filter, if_neg same]

theorem ne_nil_of_isFolder_eq_false (free : t.isFolder place = false) : place ≠ [] := by
  rintro rfl
  simp [isFolder, entry?] at free

theorem isFolder_eq_false_of_file (file : t.entry? place = some (.file text)) :
    t.isFolder place = false := by
  simp [isFolder, file]

theorem isFolder_put_file (free : t.isFolder place = false) (text : String) (q : List String) :
    (t.put place (.file text)).isFolder q = t.isFolder q := by
  by_cases same : q = place
  · subst same
    simp [free, isFolder_eq_false_of_file
      ((t.entry?_put (ne_nil_of_isFolder_eq_false free) (.file text) q).trans (if_pos rfl))]
  · rw [isFolder, entry?_put _ (ne_nil_of_isFolder_eq_false free), if_neg same, isFolder]

theorem isFolder_erase_file (free : t.isFolder place = false) (q : List String) :
    (t.erase place).isFolder q = t.isFolder q := by
  by_cases same : q = place
  · subst same
    rw [free, isFolder, entry?_erase _ (ne_nil_of_isFolder_eq_false free), if_pos rfl]
    rfl
  · rw [isFolder, entry?_erase _ (ne_nil_of_isFolder_eq_false free), if_neg same, isFolder]

/-! ## Paths -/

theorem walk?_congr (folders : ∀ q, t'.isFolder q = t.isFolder q) (place segments : List String) :
    t'.walk? place segments = t.walk? place segments := by
  induction segments generalizing place with
  | nil => rfl
  | cons segment rest inductionHypothesis =>
    simp only [walk?, folders, inductionHypothesis]

/-- Paths lead to the same places in trees with the same folders. -/
theorem place?_congr (folders : ∀ q, t'.isFolder q = t.isFolder q) (working : List String)
    (p : Path) : t'.place? working p = t.place? working p := by
  simp only [place?, walk?_congr folders]

theorem isPresent_eq (t : FileTree) (working : List String) (p : Path) :
    t.isPresent working p = (t.seen? working p).isSome := rfl

theorem read_of_seen? (seen : t.seen? working p = some (.file text)) :
    t.read working p = .ok text := by
  rw [seen?] at seen
  rw [read, seen]

/-! ## Making folders -/

/-- Paths lead on where there are more folders. -/
theorem walk?_of_folders (more : ∀ q, t.isFolder q = true → t'.isFolder q = true)
    {place q segments : List String} (leads : t.walk? place segments = some q) :
    t'.walk? place segments = some q := by
  induction segments generalizing place with
  | nil => exact leads
  | cons segment rest inductionHypothesis =>
    unfold walk? at leads ⊢
    split at leads
    next folder => exact (if_pos (more place folder)).trans (inductionHypothesis leads)
    next => cases leads

theorem entry?_makeFrom {segments : List String} (made : t.makeFrom place segments = .ok t')
    {q : List String} {e : FileEntry} (there : t.entry? q = some e) : t'.entry? q = some e := by
  induction segments generalizing t place with
  | nil => exact Except.ok.inj made ▸ there
  | cons segment rest inductionHypothesis =>
    unfold makeFrom at made
    dsimp only at made
    split at made
    next => exact inductionHypothesis made there
    next => cases made
    next free =>
      -- A folder is made where nothing was.
      have inner : step place segment ≠ [] := fun top => by simp [ entry?, top] at free
      have other : q ≠ step place segment := fun same => by simp [same ▸ there] at free
      exact inductionHypothesis made
        ((entry?_put t inner .folder q).trans ((if_neg other).trans there))

/-- What is seen is seen after folders were made. -/
theorem seen?_makeFolders (made : t.makeFolders working q = .ok t') {e : FileEntry}
    (seen : t.seen? working p = some e) : t'.seen? working p = some e := by
  obtain ⟨place, leads, there⟩ := Option.bind_eq_some_iff.mp seen
  have more (q : List String) (folder : t.isFolder q = true) : t'.isFolder q = true :=
    decide_eq_true (entry?_makeFrom made (of_decide_eq_true folder))
  refine Option.bind_eq_some_iff.mpr ⟨place, ?_, entry?_makeFrom made there⟩
  unfold place? at leads ⊢
  split at leads
  next => cases leads
  next named => exact (if_neg named).trans (walk?_of_folders more leads)

/-! ## Writing and moving -/

theorem of_write (wrote : t.write working p text = .ok t') :
    ∃ place, t.place? working p = some place ∧ t.isFolder place = false ∧
      t' = t.put place (.file text) := by
  unfold write at wrote
  split at wrote
  · cases wrote
  next place there =>
    split at wrote
    · cases wrote
    next free => exact ⟨place, there, Bool.eq_false_iff.mpr free, (Except.ok.inj wrote).symm⟩

theorem isFolder_of_write (wrote : t.write working p text = .ok t') (q : List String) :
    t'.isFolder q = t.isFolder q := by
  obtain ⟨place, -, free, rfl⟩ := of_write wrote
  exact isFolder_put_file free text q

/-- What is written is found, under every path to its place. -/
theorem seen?_write (wrote : t.write working p text = .ok t')
    (same : t.place? working q = t.place? working p) : t'.seen? working q = some (.file text) := by
  have folders := isFolder_of_write wrote
  obtain ⟨place, there, free, rfl⟩ := of_write wrote
  rw [seen?, place?_congr folders, same, there]
  exact (entry?_put t (ne_nil_of_isFolder_eq_false free) _ _).trans (if_pos rfl)

theorem seen?_write_of_ne (wrote : t.write working p text = .ok t')
    (apart : t.place? working q ≠ t.place? working p) : t'.seen? working q = t.seen? working q := by
  have folders := isFolder_of_write wrote
  obtain ⟨place, there, free, rfl⟩ := of_write wrote
  rw [seen?, seen?, place?_congr folders]
  cases leads : t.place? working q with
  | none => rfl
  | some place' =>
    have other : place' ≠ place := fun same => apart (by rw [leads, there, same])
    exact (entry?_put t (ne_nil_of_isFolder_eq_false free) _ _).trans (if_neg other)

/-- A text that was moved is found at the target. -/
theorem seen?_move (moved : t.move working p q = .ok t')
    (source : t.seen? working p = some (.file text)) : t'.seen? working q = some (.file text) := by
  unfold move at moved
  rw [read_of_seen? source] at moved
  simp only [bind, Except.bind] at moved
  split at moved
  · cases moved
  next moved' wrote =>
    have there := seen?_write wrote rfl
    have folders := isFolder_of_write wrote
    split at moved
    · exact (Except.ok.inj moved) ▸ there
    next apart =>
      split at moved
      next place from_place =>
        obtain rfl := Except.ok.inj moved
        -- The place that is cleared was a file and is not the target.
        have file : t.entry? place = some (.file text) := by
          rw [seen?, from_place] at source
          exact source
        have free : moved'.isFolder place = false :=
          (folders place).trans (isFolder_eq_false_of_file file)
        rw [seen?, place?_congr (isFolder_erase_file free), place?_congr folders]
        rw [seen?, place?_congr folders] at there
        cases leads : t.place? working q with
        | none => rw [leads] at there; cases there
        | some target =>
          have other : target ≠ place := fun same => apart (by rw [from_place, leads, same])
          rw [leads] at there
          exact (entry?_erase _ (ne_nil_of_isFolder_eq_false free) _).trans
            ((if_neg other).trans there)
      · cases moved

/-- A file can be moved to where it is. -/
theorem move_of_place?_eq (source : t.seen? working p = some (.file text))
    (same : t.place? working p = t.place? working q) : ∃ t', t.move working p q = .ok t' := by
  obtain ⟨place, there, file⟩ := Option.bind_eq_some_iff.mp source
  have free := isFolder_eq_false_of_file file
  have wrote : t.write working q text = .ok (t.put place (.file text)) := by
    rw [write, ← same, there]
    simp [free]
  refine ⟨t.put place (.file text), ?_⟩
  rw [move, read_of_seen? source]
  simp only [bind, Except.bind, wrote, same, if_true]

end DesiredState.FileTree
