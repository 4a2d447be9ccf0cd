import Mathlib.Data.List.Basic
import SourceIndex.Proofs.Walk.Calls

/-! # Names that are left out

Leaving names out prunes a walk: an entry whose name is left out is not looked at, and a directory
among them is never listed.  What is found is what would be found otherwise, less the files with such
a name on the way to them (`Folder.visit_or`), in the same order.  The way begins below the root, so
the place of the root does not matter (`Folder.visit_moved`). -/
set_option autoImplicit false
namespace SourceIndex

/-- No name is left out on the way from the root to the file, its own name included. -/
def FoundFile.spared (ignored : String → Bool) (root : Path) (file : FoundFile) : Bool :=
  !(root.namesBelow file.path).any ignored

/-- The file as it is found if the root stands at another place. -/
def FoundFile.moved (root other : Path) (file : FoundFile) : FoundFile :=
  { file with path := other.below (root.namesBelow file.path) }

def Folder.movedTo (other : Path) (folder : Folder) : Folder := { folder with path := other }

section
variable {p q : String → Bool}

theorem Entry.file?_or {path : Path} {entry : Entry} (isName : Path.IsName entry.name) :
    entry.file? (fun name => p name || q name) path =
      (entry.file? p path).filter (FoundFile.spared q path) := by
  cases found : entry.file? p path with
  | none =>
      unfold file? at found ⊢
      split at found
      · rename_i out
        simp [out]
      · simp [found]
  | some file =>
      have spared : file.spared q path = !q entry.name := by
        rw [FoundFile.spared, path_of_file? isName found, Path.namesBelow_below]
        simp
      unfold file? at found ⊢
      split at found
      · cases found
      · rename_i kept
        rw [Option.filter_some, spared]
        cases out : q entry.name <;> simp [kept, out, found]

theorem Entry.folder?_or (path : Path) (entry : Entry) :
    entry.folder? (fun name => p name || q name) path =
      if q entry.name then none else entry.folder? p path := by
  unfold folder?
  beta_reduce
  cases p entry.name <;> cases q entry.name <;> rfl

namespace Folder

theorem files_or {folder : Folder} (named : Entry.Named folder.entries) :
    folder.files (fun name => p name || q name) =
      (folder.files p).filter (FoundFile.spared q folder.path) := by
  rw [files, files, List.filter_filterMap]
  refine List.filterMap_congr ?_
  intro entry among
  exact Entry.file?_or (isName_of_mem_delivered named among)

theorem spared_below {folder below : Folder} {entry : Entry} (named : Entry.Named folder.entries)
    (among : entry ∈ folder.delivered) (entered : entry.folder? p folder.path = some below)
    {file : FoundFile} (inside : file ∈ below.visit p) :
    file.spared q folder.path = (!q entry.name && file.spared q below.path) := by
  rw [FoundFile.spared, FoundFile.spared, (namesBelow_of_folder? named among entered inside).1,
    List.any_cons, Bool.not_or]

/-- Where more names are left out, those files are found that have none of them on their way. -/
theorem visit_or (root : Folder) : Entry.Named root.entries →
    root.visit (fun name => p name || q name) =
      (root.visit p).filter (FoundFile.spared q root.path) := by
  induction root using folders_induction p with
  | folder folder ih =>
      intro named
      rw [visit_eq_entries, visit_eq_entries p, files_or named, List.filter_append,
        List.filter_flatMap]
      congr 1
      refine List.flatMap_congr ?_
      intro entry listed
      have among := List.mem_reverse.mp listed
      rw [Entry.folder?_or]
      cases entered : entry.folder? p folder.path with
      | none => simp
      | some below =>
          have member : below ∈ folder.folders p := List.mem_filterMap.mpr ⟨entry, among, entered⟩
          simp only [Option.toList_some, List.flatMap_singleton]
          cases out : q entry.name with
          | true =>
              -- the directory is never listed, and its name stands on the way to all below it
              have pruned : (below.visit p).filter (FoundFile.spared q folder.path) = [] := by
                apply List.filter_eq_nil_iff.mpr
                intro file inside
                rw [spared_below named among entered inside, out]
                exact Bool.noConfusion
              rw [pruned]
              rfl
          | false =>
              simp only [Bool.false_eq_true, if_false, Option.toList_some, List.flatMap_singleton]
              rw [ih below member (named_of_mem_folders named member)]
              apply List.filter_congr
              intro file inside
              rw [spared_below named among entered inside, out]
              rfl

end Folder

end

/-! ## The place of the root -/

section
variable {ignored : String → Bool}

theorem Entry.file?_moved {path other : Path} {entry : Entry} (isName : Path.IsName entry.name) :
    entry.file? ignored other = (entry.file? ignored path).map (FoundFile.moved path other) := by
  unfold file?
  split
  · rfl
  · cases entry with
    | directory => rfl
    | leaf name kind =>
        have here : path.child name = path.below [name] := Path.child_of_isName path isName
        have there : other.child name = other.below [name] := Path.child_of_isName other isName
        simp only [Option.map_map]
        congr 1
        funext content
        simp [FoundFile.moved, here, there, Path.namesBelow_below]

theorem Entry.folder?_moved (path other : Path) {entry : Entry} (isName : Path.IsName entry.name) :
    entry.folder? ignored other =
      (entry.folder? ignored path).map (Folder.movedTo (other.below [entry.name])) := by
  unfold folder?
  split
  · rfl
  · cases entry with
    | leaf => rfl
    | directory name conduct entries =>
        have there : other.child name = other.below [name] := Path.child_of_isName other isName
        simp [Folder.movedTo, there, Entry.name]

/-- The same files are found wherever the root stands, by the same names below it. -/
theorem Folder.visit_moved (root : Folder) : ∀ other : Path, Entry.Named root.entries →
    (root.movedTo other).visit ignored =
      (root.visit ignored).map (FoundFile.moved root.path other) := by
  induction root using folders_induction ignored with
  | folder folder ih =>
      intro other named
      have files : (folder.movedTo other).files ignored =
          (folder.files ignored).map (FoundFile.moved folder.path other) := by
        rw [Folder.files, Folder.files, List.map_filterMap]
        apply List.filterMap_congr
        intro entry among
        exact Entry.file?_moved (isName_of_mem_delivered named among)
      rw [visit_eq_entries, visit_eq_entries ignored folder, files, List.map_append,
        List.map_flatMap]
      congr 1
      refine List.flatMap_congr ?_
      intro entry listed
      have among : entry ∈ folder.delivered := List.mem_reverse.mp listed
      have place : (folder.movedTo other).path = other := rfl
      rw [place, Entry.folder?_moved folder.path other (isName_of_mem_delivered named among)]
      cases entered : entry.folder? ignored folder.path with
      | none => rfl
      | some below =>
          have member : below ∈ folder.folders ignored :=
            List.mem_filterMap.mpr ⟨entry, among, entered⟩
          simp only [Option.map_some, Option.toList_some, List.flatMap_singleton]
          rw [ih below member _ (named_of_mem_folders named member)]
          apply List.map_congr_left
          intro file inside
          rw [FoundFile.moved, FoundFile.moved,
            (namesBelow_of_folder? named among entered inside).1, Path.below_below]
          rfl

end

/-! ## Walks with patterns -/

/-- One of the patterns accepts the name, as `Glob.anyAccepts` tells where patterns are read as
globs. -/
def anyMatches (accepts : String → String → Bool) (patterns : List String) (name : String) : Bool :=
  patterns.any fun pattern => accepts pattern name

/-- All files that a walk yields where the names that a pattern accepts are left out. -/
def Folder.yielded (accepts : String → String → Bool) (patterns : List String) (root : Folder) :
    List FoundFile :=
  (Walker.start root (anyMatches accepts patterns)).drain.1

theorem Folder.yielded_eq (accepts : String → String → Bool) (patterns : List String)
    (root : Folder) : root.yielded accepts patterns = root.visit (anyMatches accepts patterns) := by
  rw [yielded, Walker.drain_eq_filesLeft, Walker.filesLeft_start]

/-- More patterns leave out more. -/
theorem Folder.yielded_of_subset (accepts : String → String → Bool) {patterns more : List String}
    (enlarged : patterns ⊆ more) {root : Folder} (named : Entry.Named root.entries) :
    root.yielded accepts more = (root.yielded accepts patterns).filter
      (FoundFile.spared (anyMatches accepts more) root.path) := by
  have absorbed : (fun name => anyMatches accepts patterns name || anyMatches accepts more name) =
      anyMatches accepts more := by
    funext name
    cases fewer : anyMatches accepts patterns name with
    | false => rfl
    | true =>
        obtain ⟨pattern, among, matched⟩ := List.any_eq_true.mp fewer
        exact (List.any_eq_true.mpr ⟨pattern, enlarged among, matched⟩).symm
  rw [yielded_eq, yielded_eq, ← visit_or root named, absorbed]

/-- A walk with patterns yields what a walk without patterns does, less the files with a name on
their way below the root that a pattern accepts.  The root's own name plays no part, and with more
patterns files are only left out. -/
theorem yielded_pruned (accepts : String → String → Bool) (root : Folder)
    (named : Entry.Named root.entries) (patterns : List String) :
    root.yielded accepts patterns = ((root.yielded accepts []).filter fun file =>
      !(root.path.namesBelow file.path).any (anyMatches accepts patterns)) ∧
    (∀ other : Path, (root.movedTo other).yielded accepts patterns =
      (root.yielded accepts patterns).map (FoundFile.moved root.path other)) ∧
    ∀ more, patterns ⊆ more →
      (root.yielded accepts more).Sublist (root.yielded accepts patterns) := by
  refine ⟨?_, ?_, ?_⟩
  · exact Folder.yielded_of_subset accepts (List.nil_subset patterns) named
  · intro other
    rw [Folder.yielded_eq, Folder.yielded_eq, Folder.visit_moved root other named]
  · intro more enlarged
    rw [Folder.yielded_of_subset accepts enlarged named]
    exact List.filter_sublist

theorem brokenTree_pruned :
    Entry.Named brokenTree.entries ∧ ["a*"] ⊆ ["a*", "old"] ∧
    brokenTree.yielded Glob.accepts ["a*"] =
      ((brokenTree.yielded Glob.accepts []).filter fun file =>
        !(brokenTree.path.namesBelow file.path).any (anyMatches Glob.accepts ["a*"])) ∧
    (∀ other : Path, (brokenTree.movedTo other).yielded Glob.accepts ["a*"] =
      (brokenTree.yielded Glob.accepts ["a*"]).map (FoundFile.moved brokenTree.path other)) ∧
    (brokenTree.yielded Glob.accepts ["a*", "old"]).Sublist
      (brokenTree.yielded Glob.accepts ["a*"]) := by
  obtain ⟨filtered, moved, enlarged⟩ :=
    yielded_pruned Glob.accepts brokenTree brokenTree_named ["a*"]
  have more : ["a*"] ⊆ ["a*", "old"] := by simp
  exact ⟨brokenTree_named, more, filtered, moved, enlarged _ more⟩

end SourceIndex
