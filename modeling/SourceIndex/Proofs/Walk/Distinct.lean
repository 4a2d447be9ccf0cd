import SourceIndex.Proofs.Path.Names
import SourceIndex.Proofs.Walk.Visits

/-! # Files are found once

Where the entries of each directory have names of their own, no two files that are found have the
same path: the path of a file tells by its names through which directories it was reached. -/
set_option autoImplicit false
namespace SourceIndex

/-- The entries have names of their own, and so have those of each directory among them. -/
inductive Entry.Named : List Entry → Prop where
  | intro {entries : List Entry} (names : ∀ entry ∈ entries, Path.IsName entry.name)
      (distinct : entries.Pairwise fun first second => first.name ≠ second.name)
      (below : ∀ name conduct inner, .directory name conduct inner ∈ entries → Named inner) :
      Named entries

theorem Entry.path_of_file? {ignored : String → Bool} {path : Path} {entry : Entry}
    {file : FoundFile} (isName : Path.IsName entry.name)
    (found : entry.file? ignored path = some file) : file.path = path.below [entry.name] := by
  unfold file? at found
  split at found
  · cases found
  · cases entry with
    | directory => cases found
    | leaf name kind =>
        obtain ⟨content, _, rfl⟩ := Option.map_eq_some_iff.mp found
        exact Path.child_of_isName path isName

theorem Entry.exists_of_folder? {ignored : String → Bool} {path : Path} {entry : Entry}
    {folder : Folder} (isName : Path.IsName entry.name)
    (entered : entry.folder? ignored path = some folder) :
    folder.path = path.below [entry.name] ∧
      entry = .directory entry.name folder.conduct folder.entries := by
  unfold folder? at entered
  split at entered
  · cases entered
  · cases entry with
    | directory name conduct entries =>
        cases entered
        exact ⟨Path.child_of_isName path isName, rfl⟩
    | leaf => cases entered

namespace Folder

variable {ignored : String → Bool}

/-- What holds of a directory as soon as it holds of those listed in it holds of all. -/
@[elab_as_elim]
theorem folders_induction (ignored : String → Bool) {motive : Folder → Prop}
    (folder : ∀ folder : Folder, (∀ below ∈ folder.folders ignored, motive below) → motive folder)
    (root : Folder) : motive root :=
  folder root fun below _ => folders_induction ignored folder below
termination_by root.weight
decreasing_by exact weight_of_mem_folders (by assumption)

theorem distinct_delivered {folder : Folder} (named : Entry.Named folder.entries) :
    folder.delivered.Pairwise fun first second => first.name ≠ second.name := by
  obtain ⟨_, distinct, _⟩ := named
  unfold delivered
  split
  · split
    · exact distinct.sublist (List.take_sublist _ _)
    · exact distinct
  · exact List.Pairwise.nil

theorem isName_of_mem_delivered {folder : Folder} (named : Entry.Named folder.entries)
    {entry : Entry} (among : entry ∈ folder.delivered) : Path.IsName entry.name := by
  obtain ⟨names, _, _⟩ := named
  exact names entry (mem_entries_of_mem_delivered among)

theorem named_of_mem_folders {folder below : Folder} (named : Entry.Named folder.entries)
    (listed : below ∈ folder.folders ignored) : Entry.Named below.entries := by
  obtain ⟨entry, among, entered⟩ := List.mem_filterMap.mp listed
  obtain ⟨_, shape⟩ := Entry.exists_of_folder? (isName_of_mem_delivered named among) entered
  obtain ⟨_, _, inner⟩ := named
  exact inner entry.name below.conduct below.entries (shape ▸ mem_entries_of_mem_delivered among)

theorem path_of_folder? {folder below : Folder} {entry : Entry}
    (named : Entry.Named folder.entries) (among : entry ∈ folder.delivered)
    (entered : entry.folder? ignored folder.path = some below) :
    below.path = folder.path.below [entry.name] :=
  (Entry.exists_of_folder? (isName_of_mem_delivered named among) entered).1

theorem exists_path_of_mem_visit {file : FoundFile} (root : Folder) :
    Entry.Named root.entries → file ∈ root.visit ignored →
      ∃ names, names ≠ [] ∧ file.path = root.path.below names := by
  induction root using folders_induction ignored with
  | folder folder ih =>
      intro named found
      rw [visit_eq, List.mem_append] at found
      rcases found with here | below
      · obtain ⟨entry, among, isFile⟩ := List.mem_filterMap.mp here
        exact ⟨[entry.name], List.cons_ne_nil _ _,
          Entry.path_of_file? (isName_of_mem_delivered named among) isFile⟩
      · obtain ⟨below, listed, inside⟩ := List.mem_flatMap.mp below
        have member := List.mem_reverse.mp listed
        obtain ⟨names, _, path⟩ := ih below member (named_of_mem_folders named member) inside
        obtain ⟨entry, among, entered⟩ := List.mem_filterMap.mp member
        rw [path_of_folder? named among entered, Path.below_below] at path
        exact ⟨entry.name :: names, List.cons_ne_nil _ _, path⟩

theorem normal_of_mem_visit {file : FoundFile} (root : Folder) :
    root.path.Normal → Entry.Named root.entries → file ∈ root.visit ignored → file.path.Normal := by
  induction root using folders_induction ignored with
  | folder folder ih =>
      intro normal named found
      rw [visit_eq, List.mem_append] at found
      rcases found with here | below
      · obtain ⟨entry, among, isFile⟩ := List.mem_filterMap.mp here
        have isName := isName_of_mem_delivered named among
        rw [Entry.path_of_file? isName isFile, ← Path.child_of_isName _ isName]
        exact normal.child isName
      · obtain ⟨below, listed, inside⟩ := List.mem_flatMap.mp below
        have member := List.mem_reverse.mp listed
        obtain ⟨entry, among, entered⟩ := List.mem_filterMap.mp member
        have isName := isName_of_mem_delivered named among
        refine ih below member ?_ (named_of_mem_folders named member) inside
        rw [path_of_folder? named among entered, ← Path.child_of_isName _ isName]
        exact normal.child isName

/-- The path of a file that is found in a listed directory passes through the name of that
directory. -/
theorem exists_path_of_folder? {folder below : Folder} {entry : Entry} {file : FoundFile}
    (named : Entry.Named folder.entries) (among : entry ∈ folder.delivered)
    (entered : entry.folder? ignored folder.path = some below)
    (inside : file ∈ below.visit ignored) :
    ∃ names, names ≠ [] ∧ file.path = folder.path.below (entry.name :: names) := by
  have member : below ∈ folder.folders ignored := List.mem_filterMap.mpr ⟨entry, among, entered⟩
  obtain ⟨names, nonempty, path⟩ :=
    exists_path_of_mem_visit below (named_of_mem_folders named member) inside
  rw [path_of_folder? named among entered, Path.below_below] at path
  exact ⟨names, nonempty, path⟩

/-- The names that lead to a file below a listed directory are the name of that directory and those
that lead on from there. -/
theorem namesBelow_of_folder? {folder below : Folder} {entry : Entry} {file : FoundFile}
    (named : Entry.Named folder.entries) (among : entry ∈ folder.delivered)
    (entered : entry.folder? ignored folder.path = some below)
    (inside : file ∈ below.visit ignored) :
    folder.path.namesBelow file.path = entry.name :: below.path.namesBelow file.path ∧
      below.path.namesBelow file.path ≠ [] := by
  obtain ⟨names, nonempty, path⟩ := exists_path_of_folder? named among entered inside
  have fromAbove : folder.path.namesBelow file.path = entry.name :: names := by
    rw [path, Path.namesBelow_below]
  have fromHere : below.path.namesBelow file.path = names := by
    rw [path, path_of_folder? named among entered]
    exact (congrArg _ (Path.below_below _ [entry.name] names).symm).trans (Path.namesBelow_below ..)
  rw [fromAbove, fromHere]
  exact ⟨rfl, nonempty⟩

theorem distinct_files {folder : Folder} (named : Entry.Named folder.entries) :
    (folder.files ignored).Pairwise fun first second => first.path ≠ second.path := by
  rw [files, List.pairwise_filterMap]
  refine (distinct_delivered named).imp_of_mem ?_
  intro first second inFirst inSecond apart firstFile isFirst secondFile isSecond
  rw [Entry.path_of_file? (isName_of_mem_delivered named inFirst) isFirst,
    Entry.path_of_file? (isName_of_mem_delivered named inSecond) isSecond]
  intro same
  exact apart (List.cons.inj (Path.below_injective _ same)).1

theorem folders_apart {folder : Folder} (named : Entry.Named folder.entries) :
    (folder.folders ignored).Pairwise fun first second =>
      ∀ firstFile ∈ first.visit ignored, ∀ secondFile ∈ second.visit ignored,
        firstFile.path ≠ secondFile.path := by
  rw [folders, List.pairwise_filterMap]
  refine (distinct_delivered named).imp_of_mem ?_
  intro first second inFirst inSecond apart firstBelow isFirst secondBelow isSecond firstFile
    inFirstBelow secondFile inSecondBelow same
  obtain ⟨_, _, firstPath⟩ := exists_path_of_folder? named inFirst isFirst inFirstBelow
  obtain ⟨_, _, secondPath⟩ := exists_path_of_folder? named inSecond isSecond inSecondBelow
  rw [firstPath, secondPath] at same
  exact apart (List.cons.inj (Path.below_injective _ same)).1

theorem distinct_visit (root : Folder) : Entry.Named root.entries →
    (root.visit ignored).Pairwise fun first second => first.path ≠ second.path := by
  induction root using folders_induction ignored with
  | folder folder ih =>
      intro named
      rw [visit_eq, List.pairwise_append, List.pairwise_flatMap, List.pairwise_reverse]
      refine ⟨distinct_files named, ⟨?_, ?_⟩, ?_⟩
      · intro below listed
        have member := List.mem_reverse.mp listed
        exact ih below member (named_of_mem_folders named member)
      · -- the directories are visited in reverse, which `≠` does not mind
        refine (folders_apart named).imp ?_
        intro first second apart secondFile inSecond firstFile inFirst same
        exact apart firstFile inFirst secondFile inSecond same.symm
      · intro file isFile deeper found
        obtain ⟨entry, among, here⟩ := List.mem_filterMap.mp isFile
        obtain ⟨below, listed, inside⟩ := List.mem_flatMap.mp found
        obtain ⟨other, amongToo, entered⟩ := List.mem_filterMap.mp (List.mem_reverse.mp listed)
        obtain ⟨names, nonempty, path⟩ := exists_path_of_folder? named amongToo entered inside
        rw [Entry.path_of_file? (isName_of_mem_delivered named among) here, path]
        intro same
        -- a file further down has at least one name more
        exact nonempty (List.cons.inj (Path.below_injective _ same)).2.symm

end Folder

end SourceIndex
