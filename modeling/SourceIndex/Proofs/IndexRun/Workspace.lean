import SourceIndex.Proofs.Dataset.Places

/-! # Making a workspace

A workspace can be made where each place on its way is a directory or may become one: the directories
that are missing are made from the first on, and nothing else is changed
(`ensureDirectory_of_makeable`). -/
set_option autoImplicit false
namespace SourceIndex.FileStore

/-- A directory stands at the place or can be made there. -/
def Free (store : FileStore) (place : Place) : Prop :=
  store.at? place = some .directory ∨ store.at? place = none ∧ store.refusal? place = none

/-- The path leads down from a directory, and all places on its way are free. -/
structure Makeable (store : FileStore) (path : Path) : Prop where
  begins : store.at? (store.base path.anchor) = some .directory
  down : ".." ∉ path.names
  free : ∀ front, front <+: path.names → store.Free (store.base path.anchor ++ front)

/-- Nothing but directories was made, and the path leads through directories only. -/
structure MadeDirectories (store after : FileStore) (path : Path) : Prop where
  here : after.here = store.here
  refusal : after.refusal? = store.refusal?
  opened : after.Open (store.base path.anchor) path.names
  only : ∀ place, after.at? place = store.at? place ∨
    store.at? place = none ∧ after.at? place = some .directory

theorem open_nil {store : FileStore} {here : Place} (stands : store.at? here = some .directory) :
    store.Open here [] := by
  intro front among
  rw [List.prefix_nil.mp among, List.append_nil]
  exact stands

theorem base_eq {store after : FileStore} (here : after.here = store.here) (anchor : Anchor) :
    after.base anchor = store.base anchor := by
  cases anchor with
  | relative => exact here
  | _ => rfl

/-- A path is astray for want of a directory where places on its way are free, but not all of them
directories. -/
theorem follow_missing {store : FileStore} (name : String) (names : List String) :
    ∀ {here : Place}, (∀ front, front <+: names → store.Free (here ++ front)) → ".." ∉ names →
      ¬store.Open here names → store.follow here (names ++ [name]) = .error .missing := by
  induction names with
  | nil =>
      intro here free _ shut
      have own : store.Free here := by simpa using free [] List.nil_prefix
      rcases own with stands | ⟨nothing, _⟩
      · exact absurd (open_nil stands) shut
      · rw [List.nil_append, follow, nothing]
  | cons first names ih =>
      intro here free down shut
      have isName : first ≠ ".." := fun same => down (same ▸ List.mem_cons_self)
      have own : store.Free here := by simpa using free [] List.nil_prefix
      rcases own with stands | ⟨nothing, _⟩
      · rw [List.cons_append, follow, stands]
        simp only [if_neg isName]
        refine ih ?_ (fun among => down (List.mem_cons_of_mem first among)) ?_
        · intro front among
          simpa using free (first :: front) (List.cons_prefix_cons.mpr ⟨rfl, among⟩)
        · intro opened
          refine shut ?_
          intro front among
          cases front with
          | nil => simpa using stands
          | cons other front =>
              obtain ⟨rfl, behind⟩ := List.cons_prefix_cons.mp among
              simpa using opened front behind
      · rw [List.cons_append, follow, nothing]

section
variable {store : FileStore} {anchor : Anchor} {front : List String} {name : String}
  (down : ".." ∉ front ++ [name])
include down

/-- The last directory of a path is made where those in front of it are there. -/
theorem makeDirectory_of_open (opened : store.Open (store.base anchor) front)
    (free : store.Free (store.base anchor ++ (front ++ [name]))) :
    ∃ after, store.makeDirectory ⟨anchor, front ++ [name]⟩ = .ok after ∧
      MadeDirectories store after ⟨anchor, front ++ [name]⟩ := by
  have isName : name ≠ ".." := fun same => down (by simp [same])
  have above : ".." ∉ front := fun among => down (List.mem_append_left _ among)
  have leads : store.resolve ⟨anchor, front ++ [name]⟩ =
      .ok (store.base anchor ++ (front ++ [name])) := by
    rw [resolve, follow_open [name] front opened above, follow, opened front List.prefix_rfl]
    simp [isName, follow]
  rcases free with stands | ⟨nothing, allowed⟩
  · refine ⟨store, by simp [makeDirectory, leads, stands], rfl, rfl, ?_, fun place => .inl rfl⟩
    intro part among
    rcases List.prefix_concat_iff.mp among with rfl | earlier
    · exact stands
    · exact opened part earlier
  · refine ⟨store.put (store.base anchor ++ (front ++ [name])) .directory, ?_, rfl, rfl, ?_, ?_⟩
    · simp only [makeDirectory, leads, nothing, allowed]
    · intro part among
      by_cases last : store.base anchor ++ part = store.base anchor ++ (front ++ [name])
      · exact (congrArg _ last).trans (at?_put_self ..)
      · rw [at?_put_of_ne store last]
        rcases List.prefix_concat_iff.mp among with rfl | earlier
        · exact absurd rfl last
        · exact opened part earlier
    · intro place
      by_cases last : place = store.base anchor ++ (front ++ [name])
      · exact .inr ⟨last ▸ nothing, by rw [last, at?_put_self]⟩
      · exact .inl (at?_put_of_ne store last _)

theorem makeDirectory_of_shut (shut : ¬store.Open (store.base anchor) front)
    (free : ∀ part, part <+: front → store.Free (store.base anchor ++ part)) :
    store.makeDirectory ⟨anchor, front ++ [name]⟩ =
      .error (.notFound (Path.text ⟨anchor, front ++ [name]⟩)) := by
  have above : ".." ∉ front := fun among => down (List.mem_append_left _ among)
  rw [makeDirectory, resolve, follow_missing name front free above shut]
  rfl

end

theorem makeDirectories_of_makeable {store : FileStore} {anchor : Anchor} (fuel : List String) :
    ∀ {names : List String}, fuel.length = names.length → store.Makeable ⟨anchor, names⟩ →
      ∃ after, store.makeDirectories ⟨anchor, names⟩ fuel = .ok after ∧
        MadeDirectories store after ⟨anchor, names⟩ := by
  induction fuel with
  | nil =>
      intro names long makeable
      obtain rfl : names = [] := List.length_eq_zero_iff.mp long.symm
      have begins : store.at? (store.base anchor) = some .directory := makeable.begins
      refine ⟨store, ?_, rfl, rfl, open_nil begins, fun place => .inl rfl⟩
      simp [makeDirectories, makeDirectory, resolve, follow, begins]
  | cons _ fuel ih =>
      intro names long makeable
      rcases List.eq_nil_or_concat names with rfl | ⟨front, name, rfl⟩
      · cases long
      rw [List.concat_eq_append] at long makeable ⊢
      have down := makeable.down
      have free : ∀ part, part <+: front → store.Free (store.base anchor ++ part) :=
        fun part among => makeable.free part (among.trans (List.prefix_append front [name]))
      by_cases opened : store.Open (store.base anchor) front
      · obtain ⟨after, made, what⟩ :=
          makeDirectory_of_open down opened (makeable.free _ List.prefix_rfl)
        exact ⟨after, by rw [makeDirectories, made], what⟩
      · -- the directories in front of the last one are made first
        have parent : Path.parent ⟨anchor, front ++ [name]⟩ = ⟨anchor, front⟩ := by
          simp [Path.parent]
        have above : ".." ∉ front := fun among => down (List.mem_append_left _ among)
        obtain ⟨middle, madeFirst, first⟩ :=
          @ih front (by simpa using long) ⟨makeable.begins, above, free⟩
        have base := base_eq first.here anchor
        have last : middle.Free (middle.base anchor ++ (front ++ [name])) := by
          have own := makeable.free _ List.prefix_rfl
          rw [base]
          rcases first.only (store.base anchor ++ (front ++ [name])) with same | ⟨_, stands⟩
          · rw [Free, same, first.refusal]
            exact own
          · exact .inl stands
        obtain ⟨after, made, second⟩ := makeDirectory_of_open down (base ▸ first.opened) last
        refine ⟨after, ?_, second.here.trans first.here, second.refusal.trans first.refusal,
          base ▸ second.opened, ?_⟩
        · rw [makeDirectories, makeDirectory_of_shut down opened free, OsError.notFound]
          simp only [parent, madeFirst, made]
        · intro place
          rcases second.only place with same | ⟨nothing, stands⟩
          · rw [same]
            exact first.only place
          · rcases first.only place with kept | ⟨_, stood⟩
            · exact .inr ⟨kept ▸ nothing, stands⟩
            · rw [stood] at nothing
              cases nothing

/-- A directory is there in the end, with all that lead to it, where each of them is there or can be
made; apart from these directories nothing is changed. -/
theorem ensureDirectory_of_makeable {store : FileStore} {path : Path}
    (makeable : store.Makeable path) :
    ∃ after, store.ensureDirectory path = .ok after ∧ MadeDirectories store after path :=
  makeDirectories_of_makeable path.names rfl makeable

end SourceIndex.FileStore
