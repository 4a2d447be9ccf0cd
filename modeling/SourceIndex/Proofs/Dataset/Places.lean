import SourceIndex.Dataset
import SourceIndex.Proofs.Path.Names

/-! # Files at their places

A relative path leads where the absolute one below the working directory does (`resolve_root`).  A
path leads through directories only, so it leads to the same place when files are written and removed
(`resolve_of_sameDirectories`).  What is put where a file may stand is found there again, and nothing
is found behind a file that was opened and discarded. -/
set_option autoImplicit false
namespace SourceIndex.FileStore

theorem at?_put_self (store : FileStore) (place : Place) (what : Stored) :
    (store.put place what).at? place = some what := if_pos rfl

theorem at?_put_of_ne (store : FileStore) {place other : Place} (apart : other ≠ place)
    (what : Stored) : (store.put place what).at? other = store.at? other := if_neg apart

theorem at?_clear_self (store : FileStore) (place : Place) :
    (store.clear place).at? place = none := if_pos rfl

theorem at?_clear_of_ne (store : FileStore) {place other : Place} (apart : other ≠ place) :
    (store.clear place).at? other = store.at? other := if_neg apart

/-- Paths lead to the same places in both stores. -/
structure SameDirectories (before after : FileStore) : Prop where
  here : after.here = before.here
  directory : ∀ place, after.at? place = some .directory ↔ before.at? place = some .directory

/-! ## Where paths lead -/

theorem follow_cons_eq_ok (store : FileStore) (here target : Place) (name : String)
    (rest : List String) :
    store.follow here (name :: rest) = .ok target ↔ store.at? here = some .directory ∧
      store.follow (if name = ".." then here.dropLast else here ++ [name]) rest = .ok target := by
  rw [follow]
  cases stands : store.at? here with
  | none => simp
  | some what =>
      cases what with
      | directory => simp [apply_ite (store.follow · rest)]
      | dataset => simp
      | bytes => simp

theorem follow_append_eq_ok (store : FileStore) (target : Place) (rest : List String)
    (names : List String) : ∀ here, store.follow here (names ++ rest) = .ok target ↔
      ∃ middle, store.follow here names = .ok middle ∧ store.follow middle rest = .ok target := by
  induction names with
  | nil =>
      intro here
      simp [follow]
  | cons name names ih =>
      intro here
      simp only [List.cons_append, follow_cons_eq_ok, ih, and_assoc, exists_and_left]

theorem follow_of_sameDirectories {before after : FileStore} (same : SameDirectories before after)
    {target : Place} (names : List String) : ∀ {here : Place},
      before.follow here names = .ok target → after.follow here names = .ok target := by
  induction names with
  | nil => exact fun leads => leads
  | cons name rest ih =>
      intro here leads
      rw [follow_cons_eq_ok] at leads ⊢
      exact ⟨(same.directory here).mpr leads.1, ih leads.2⟩

theorem resolve_of_sameDirectories {before after : FileStore} (same : SameDirectories before after)
    {path : Path} {place : Place} (leads : before.resolve path = .ok place) :
    after.resolve path = .ok place := by
  have base : after.base path.anchor = before.base path.anchor := by
    cases path.anchor with
    | relative => exact same.here
    | _ => rfl
  rw [resolve, base]
  exact follow_of_sameDirectories same path.names leads

/-- A file of a directory stands at a place below that of the directory. -/
theorem resolve_below {store : FileStore} {path : Path} {name : String} {place : Place}
    (isName : name ≠ "..") (leads : store.resolve (path.below [name]) = .ok place) :
    ∃ here, store.resolve path = .ok here ∧ place = here ++ [name] := by
  obtain ⟨here, reached, last⟩ :=
    (follow_append_eq_ok store place [name] path.names (store.base path.anchor)).mp leads
  rw [follow_cons_eq_ok, if_neg isName] at last
  exact ⟨here, reached, (Except.ok.inj last.2).symm⟩

/-- All places on the way from a directory are directories. -/
def Open (store : FileStore) (here : Place) (names : List String) : Prop :=
  ∀ front, front <+: names → store.at? (here ++ front) = some .directory

theorem follow_open {store : FileStore} (rest names : List String) : ∀ {here : Place},
    store.Open here names → ".." ∉ names →
      store.follow here (names ++ rest) = store.follow (here ++ names) rest := by
  induction names with
  | nil =>
      intro here _ _
      rw [List.nil_append, List.append_nil]
  | cons name names ih =>
      intro here passable down
      have isName : name ≠ ".." := fun same => down (same ▸ List.mem_cons_self)
      have deeper : ".." ∉ names := fun among => down (List.mem_cons_of_mem name among)
      have standing : store.at? here = some .directory := by
        simpa using passable [] List.nil_prefix
      have behind : store.Open (here ++ [name]) names := by
        intro front among
        simpa using passable (name :: front) (List.cons_prefix_cons.mpr ⟨rfl, among⟩)
      rw [List.cons_append, follow, standing]
      simp only [if_neg isName]
      rw [ih behind deeper, List.append_assoc, List.singleton_append]

/-- A relative path leads where the absolute one does that begins with the working directory. -/
theorem resolve_root {store : FileStore} (names : List String) (passable : store.Open [] store.here)
    (down : ".." ∉ store.here) :
    store.resolve ⟨.root, store.here ++ names⟩ = store.resolve ⟨.relative, names⟩ :=
  follow_open names store.here passable down

example : empty.resolve (.ofString "/work/chunks.parquet") =
    empty.resolve (.ofString "chunks.parquet") := rfl

/-! ## What stands at a path -/

/-- The path leads to a place where something stands. -/
structure Holds (store : FileStore) (path : Path) (place : Place) (what : Stored) : Prop where
  leads : store.resolve path = .ok place
  stands : store.at? place = some what

/-- A dataset is read where its source leads to a table whose columns have names of their own. -/
theorem readDataset_eq_ok {store : FileStore} {source : String} {table : Table} :
    store.readDataset source = .ok table ↔ ∃ place made, source ≠ "" ∧
      store.resolve (.ofString source) = .ok place ∧ store.tableAt? place = some made ∧
      made.columnNames.Nodup ∧ made.stored = table := by
  by_cases named : source = ""
  · simp [FileStore.readDataset, named]
  · cases leads : store.resolve (.ofString source) with
    | error astray => simp [FileStore.readDataset, named, leads]
    | ok place =>
        cases stands : store.tableAt? place with
        | none => simp [FileStore.readDataset, named, leads, stands]
        | some made =>
            by_cases distinct : made.columnNames.Nodup
            · simp [FileStore.readDataset, named, leads, stands, distinct]
            · simp [FileStore.readDataset, named, leads, stands, distinct]

theorem Holds.readDataset {store : FileStore} {path : Path} {place : Place} {table : Table}
    (holds : Holds store path place (.dataset table)) (distinct : table.columnNames.Nodup)
    (normal : path.Normal) : store.readDataset path.text = .ok table.stored := by
  have leads : store.resolve (.ofString path.text) = .ok place := by
    rw [Path.ofString_text normal]
    exact holds.leads
  have stands : store.tableAt? place = some table := by rw [tableAt?, holds.stands]
  refine readDataset_eq_ok.mpr ⟨place, table, ?_, leads, stands, distinct, rfl⟩
  intro empty
  have nothing : path = .ofString "" := by rw [← empty, Path.ofString_text normal]
  rw [nothing] at empty
  exact absurd empty (by decide)

theorem readDataset_of_find?_eq_none {store : FileStore} {source : String}
    (gone : store.find? (.ofString source) = none) :
    store.readDataset source = .error (.cannotRead source) := by
  by_cases named : source = ""
  · simp only [FileStore.readDataset, if_pos named]
  · cases leads : store.resolve (.ofString source) with
    | error astray => simp only [FileStore.readDataset, if_neg named, leads]
    | ok place =>
        have nothing : store.at? place = none := by simpa only [find?, leads] using gone
        simp only [FileStore.readDataset, if_neg named, leads, tableAt?, nothing]

/-- A dataset is read as before where nothing has changed at its place, nor below it. -/
theorem readDataset_of_sameDirectories {before after : FileStore}
    (same : SameDirectories before after) (parts : after.parts? = before.parts?) {source : String}
    {place : Place} (leads : before.resolve (.ofString source) = .ok place)
    (unchanged : ∀ below, after.at? (place ++ below) = before.at? (place ++ below)) :
    after.readDataset source = before.readDataset source := by
  have here : after.at? place = before.at? place := by simpa using unchanged []
  have there : after.tableAt? place = before.tableAt? place := by
    rw [tableAt?, tableAt?, here, parts, funext unchanged]
  by_cases named : source = ""
  · simp only [FileStore.readDataset, if_pos named]
  · simp only [FileStore.readDataset, if_neg named, leads, resolve_of_sameDirectories same leads,
      there]

/-! ## Where files may stand -/

/-- The path leads to a place where a file may stand. -/
structure FileAt (store : FileStore) (path : Path) (place : Place) : Prop where
  leads : store.resolve path = .ok place
  noDirectory : store.at? place ≠ some .directory

namespace FileAt

variable {store : FileStore} {path : Path} {place : Place}

theorem sameDirectories_put (file : FileAt store path place) {what : Stored}
    (isFile : what ≠ .directory) : SameDirectories store (store.put place what) := by
  refine ⟨rfl, fun other => ?_⟩
  have noDirectory := file.noDirectory
  by_cases same : other = place
  · rw [same, at?_put_self]
    simp [isFile, noDirectory]
  · rw [at?_put_of_ne store same]

theorem sameDirectories_clear (file : FileAt store path place) :
    SameDirectories store (store.clear place) := by
  refine ⟨rfl, fun other => ?_⟩
  have noDirectory := file.noDirectory
  by_cases same : other = place
  · rw [same, at?_clear_self]
    simp [noDirectory]
  · rw [at?_clear_of_ne store same]

theorem put (file : FileAt store path place) {what : Stored} (isFile : what ≠ .directory) :
    FileAt (store.put place what) path place where
  leads := resolve_of_sameDirectories (file.sameDirectories_put isFile) file.leads
  noDirectory := by simp [at?_put_self, isFile]

theorem holds_put (file : FileAt store path place) {what : Stored} (isFile : what ≠ .directory) :
    Holds (store.put place what) path place what where
  leads := (file.put isFile).leads
  stands := at?_put_self store place what

theorem holds_put_of_ne (file : FileAt store path place) {what : Stored} (isFile : what ≠ .directory)
    {other : Path} {elsewhere : Place} {old : Stored} (holds : Holds store other elsewhere old)
    (apart : elsewhere ≠ place) : Holds (store.put place what) other elsewhere old where
  leads := resolve_of_sameDirectories (file.sameDirectories_put isFile) holds.leads
  stands := (at?_put_of_ne store apart what).trans holds.stands

theorem find?_clear (file : FileAt store path place) : (store.clear place).find? path = none := by
  have leads := resolve_of_sameDirectories file.sameDirectories_clear file.leads
  simp only [find?, leads, at?_clear_self]

theorem discard_put (file : FileAt store path place) {what : Stored} (isFile : what ≠ .directory) :
    ((store.put place what).discard path).1 = (store.put place what).clear place := by
  have there := file.put isFile
  have stands := store.at?_put_self place what
  have removed : (store.put place what).remove path = .ok ((store.put place what).clear place) := by
    cases what with
    | directory => exact absurd rfl isFile
    | dataset => simp [remove, there.leads, stands]
    | bytes => simp [remove, there.leads, stands]
  rw [discard, removed]

theorem sameDirectories_discard (file : FileAt store path place) {what : Stored}
    (isFile : what ≠ .directory) :
    SameDirectories store ((store.put place what).discard path).1 := by
  have opened := file.sameDirectories_put isFile
  have removed := (file.put isFile).sameDirectories_clear
  rw [file.discard_put isFile]
  exact ⟨rfl, fun other => (removed.directory other).trans (opened.directory other)⟩

/-- Opening and discarding a file changes nothing elsewhere, and nothing at all where nothing stood. -/
theorem at?_discard (file : FileAt store path place) {what : Stored} (isFile : what ≠ .directory)
    {other : Place} (spared : other = place → store.at? place = none) :
    ((store.put place what).discard path).1.at? other = store.at? other := by
  rw [file.discard_put isFile]
  by_cases same : other = place
  · rw [same, at?_clear_self, spared same]
  · rw [at?_clear_of_ne _ same, at?_put_of_ne _ same]

theorem find?_discard (file : FileAt store path place) {what : Stored} (isFile : what ≠ .directory) :
    ((store.put place what).discard path).1.find? path = none := by
  rw [file.discard_put isFile]
  exact (file.put isFile).find?_clear

end FileAt

/-- A file can be opened for writing: the path leads to a place where a file may stand, and the store
does not refuse it. -/
structure Openable (store : FileStore) (path : Path) (place : Place) : Prop
    extends FileAt store path place where
  allowed : store.refusal? place = none

/-- Opening a file for writing empties the place that its path leads to. -/
theorem create_eq_ok {store opened : FileStore} {path : Path} {place : Place} :
    store.create path = .ok (place, opened) ↔
      store.Openable path place ∧ opened = store.put place (.bytes []) := by
  constructor
  · intro created
    unfold create at created
    cases leads : store.resolve path with
    | error astray => simp [leads] at created
    | ok target =>
        simp only [leads] at created
        split at created
        · cases created
        · cases created
        · rename_i allowed noDirectory
          cases created
          exact ⟨⟨⟨leads, noDirectory⟩, allowed⟩, rfl⟩
  · rintro ⟨openable, rfl⟩
    cases stands : store.at? place with
    | none => simp [create, openable.leads, openable.allowed, stands]
    | some what =>
        cases what with
        | directory => exact absurd stands openable.noDirectory
        | _ => simp [create, openable.leads, openable.allowed, stands]

theorem not_openable_of_create_error {store : FileStore} {path : Path} {cause : OsError}
    (shut : store.create path = .error cause) (place : Place) : ¬store.Openable path place := by
  intro openable
  rw [create_eq_ok.mpr ⟨openable, rfl⟩] at shut
  cases shut

section
variable {store opened : FileStore} {path : Path} {place : Place}
  (created : store.create path = .ok (place, opened)) (table : Table)
include created

theorem holds_of_create :
    Holds (opened.put place (.dataset table)) path place (.dataset table) := by
  obtain ⟨⟨file, _⟩, rfl⟩ := create_eq_ok.mp created
  exact (file.put Stored.noConfusion).holds_put Stored.noConfusion

/-- Opening a file and writing a dataset into it leaves what stands elsewhere. -/
theorem holds_of_create_of_ne {other : Path} {elsewhere : Place} {old : Stored}
    (holds : Holds store other elsewhere old) (apart : elsewhere ≠ place) :
    Holds (opened.put place (.dataset table)) other elsewhere old := by
  obtain ⟨⟨file, _⟩, rfl⟩ := create_eq_ok.mp created
  have emptied : Holds (store.put place (.bytes [])) other elsewhere old :=
    file.holds_put_of_ne Stored.noConfusion holds apart
  exact (file.put Stored.noConfusion).holds_put_of_ne Stored.noConfusion emptied apart

end

end SourceIndex.FileStore
