import SourceIndex.Proofs.Dataset.Extraction
import SourceIndex.Proofs.Stream.Runs
import SourceIndex.Proofs.Walk.Order

/-! # The chunk dataset of a rearranged tree

When directories list their entries in another order, the dataset has the same rows in another order
(`extract_rearranged`).  The rows of one file stand together in both, in the same order. -/
set_option autoImplicit false
namespace SourceIndex

/-- The row is of the file at the path. -/
def isOfFile (path : String) (row : Entries) : Bool :=
  match Value.lookup "file_path" row with
  | some (.text own) => own == path
  | _ => false

/-- The rows of the file at the path, in their order. -/
def Table.rowsOfFile (table : Table) (path : String) : List Entries :=
  table.namedRows.filter (isOfFile path)

namespace FoundFile

def rows (opened : Except Failure Registry) (file : FoundFile) : List Entries :=
  (FileOutcome.of opened file).records.filterMap Record.row?

def isAt (path : String) (file : FoundFile) : Bool := file.path.text == path

variable {opened : Except Failure Registry}

theorem isOfFile_of_mem_rows {file : FoundFile} {row : Entries} (among : row ∈ file.rows opened)
    (path : String) : isOfFile path row = file.isAt path := by
  obtain ⟨record, member, shown⟩ := List.mem_filterMap.mp among
  obtain ⟨text, _, rfl⟩ := Option.map_eq_some_iff.mp shown
  have own : isOfFile path (record.rowWith text) = (record.filePath == path) := rfl
  rw [own, FileOutcome.filePath_of_mem_records member, isAt]

theorem filter_rows (files : List FoundFile) (path : String) :
    (files.flatMap (rows opened)).filter (isOfFile path) =
      (files.filter (isAt path)).flatMap (rows opened) := by
  rw [List.filter_flatMap, flatMap_filter]
  refine List.flatMap_congr ?_
  intro file _
  cases here : file.isAt path with
  | true => exact List.filter_eq_self.mpr fun row among => (isOfFile_of_mem_rows among path).trans here
  | false =>
      refine List.filter_eq_nil_iff.mpr ?_
      intro row among
      rw [isOfFile_of_mem_rows among path, here]
      exact Bool.noConfusion

section
variable {files : List FoundFile} (normal : ∀ file ∈ files, file.path.Normal)
  (distinct : files.Pairwise fun first second => first.path ≠ second.path)
include normal distinct

/-- One file at most is at a path. -/
theorem filter_isAt (path : String) :
    files.filter (isAt path) = [] ∨ ∃ file ∈ files, files.filter (isAt path) = [file] := by
  have place : ∀ file ∈ files.filter (isAt path), file.path = .ofString path := by
    intro file among
    obtain ⟨member, here⟩ := List.mem_filter.mp among
    have text : file.path.text = path := eq_of_beq here
    rw [← text, Path.ofString_text (normal file member)]
  have apart := distinct.filter (isAt path)
  cases found : files.filter (isAt path) with
  | nil => exact .inl rfl
  | cons first others =>
      rw [found] at place apart
      have member : first ∈ files.filter (isAt path) := found ▸ List.mem_cons_self
      refine .inr ⟨first, (List.mem_filter.mp member).1, ?_⟩
      cases others with
      | nil => rfl
      | cons second rest =>
          have same : first.path = second.path := (place first (by simp)).trans
            (place second (by simp)).symm
          exact absurd same ((List.pairwise_cons.mp apart).1 second List.mem_cons_self)

/-- The rows of one file stand together. -/
theorem rows_infix (path : String) :
    (files.flatMap (rows opened)).filter (isOfFile path) <:+: files.flatMap (rows opened) := by
  rw [filter_rows]
  rcases filter_isAt normal distinct path with none | ⟨file, member, alone⟩
  · rw [none]
    exact List.nil_infix
  · rw [alone, List.flatMap_singleton]
    exact List.infix_of_mem_flatten (List.mem_map_of_mem member)

theorem filter_rows_of_perm {others : List FoundFile} (permuted : files.Perm others)
    (path : String) :
    (others.flatMap (rows opened)).filter (isOfFile path) =
      (files.flatMap (rows opened)).filter (isOfFile path) := by
  have kept := permuted.filter (isAt path)
  rw [filter_rows, filter_rows]
  rcases filter_isAt normal distinct path with none | ⟨file, _, alone⟩
  · rw [none] at kept ⊢
    rw [List.nil_perm.mp kept]
  · rw [alone] at kept ⊢
    rw [List.perm_singleton.mp kept.symm]

end

end FoundFile

namespace Stream

/-- When directories that are listed to their ends list their entries in another order, the table has
the same rows, the same files are skipped and as many directories, all up to the order.  The rows of
one file stand together and keep their order. -/
theorem extract_rearranged {root other : Folder} (rearranged : root.Rearranged other)
    (ignored : String → Bool) (shelf : LanguageShelf) (onSkip : Option SkipCallback)
    {registry : Registry} (built : shelf.opened = .ok registry)
    (calm : ∀ callback, onSkip = some callback → ∀ told, callback told = false)
    (normal : root.path.Normal) (named : Entry.Named root.entries) (steady : root.Steady ignored)
    (narrow : ∀ file ∈ (Walker.start root ignored).drain.1,
      ∀ tree, file.content.tree = some tree → tree.Narrow) :
    let first := (start root ignored shelf onSkip).extract
    let second := (start other ignored shelf onSkip).extract
    ∃ table permuted, first.1 = .ok table ∧ second.1 = .ok permuted ∧
      table.namedRows.Perm permuted.namedRows ∧
      first.2.1.reported.Perm second.2.1.reported ∧
      first.2.1.stats.directoriesSkipped = second.2.1.stats.directoriesSkipped ∧
      ∀ path, table.rowsOfFile path <:+: table.namedRows ∧
        permuted.rowsOfFile path <:+: permuted.namedRows ∧
        permuted.rowsOfFile path = table.rowsOfFile path := by
  intro first second
  rw [Walker.drain_eq_filesLeft, Walker.filesLeft_start] at narrow
  have found : (root.visit ignored).Perm (other.visit ignored) :=
    Folder.visit_perm rearranged steady
  have fits : ∀ record ∈ (root.visit ignored).flatMap fun file =>
      (FileOutcome.of shelf.opened file).records, record.Fits := by
    intro record member
    obtain ⟨file, among, inFile⟩ := List.mem_flatMap.mp member
    exact FileOutcome.fits_of_mem_records (narrow file among) inFile
  have otherFits : ∀ record ∈ (other.visit ignored).flatMap fun file =>
      (FileOutcome.of shelf.opened file).records, record.Fits := by
    intro record member
    exact fits record ((found.flatMap_right _).mem_iff.mpr member)
  obtain ⟨table, extracted, rows⟩ := extract_of_calm root built calm fits
  obtain ⟨permuted, extractedOther, otherRows⟩ := extract_of_calm other built calm otherFits
  rw [List.filterMap_flatMap] at rows otherRows
  have normalFiles : ∀ file ∈ root.visit ignored, file.path.Normal :=
    fun file among => Folder.normal_of_mem_visit root normal named among
  have distinct : (root.visit ignored).Pairwise fun first second => first.path ≠ second.path :=
    Folder.distinct_visit root named
  refine ⟨table, permuted, extracted, extractedOther, ?_, ?_, ?_, ?_⟩
  · rw [rows, otherRows]
    exact found.flatMap_right _
  · rw [reported_extract extracted, reported_extract extractedOther]
    split
    · exact found.filterMap _
    · exact .nil
  · rw [directoriesSkipped_extract extracted, directoriesSkipped_extract extractedOther]
    exact Folder.countP_fails_visited rearranged steady
  · intro path
    have otherNormal : ∀ file ∈ other.visit ignored, file.path.Normal :=
      fun file among => normalFiles file (found.mem_iff.mpr among)
    have otherDistinct := found.pairwise distinct fun apart same => apart same.symm
    rw [Table.rowsOfFile, Table.rowsOfFile, rows, otherRows]
    exact ⟨FoundFile.rows_infix normalFiles distinct path,
      FoundFile.rows_infix otherNormal otherDistinct path,
      FoundFile.filter_rows_of_perm normalFiles distinct found path⟩

end Stream

def lockedFile : FileContent := ⟨.error (.numbered 13 "Permission denied"), none⟩

/-- A directory with a file that cannot be read, beside a file, a link and a directory that cannot be
listed. -/
def sourceTree : Folder where
  path := .ofString "src"
  conduct := {}
  entries :=
    [.directory "lib" {} [.leaf "deep.rs" (.file oneWord), .leaf "locked.rs" (.file lockedFile)],
      .leaf "word.rs" (.file oneWord), .directory "shut" { opens := false } [],
      .leaf "link" .linkedDirectory]

/-- The same directory, which lists its file first, and whose directory lists the other file first. -/
def sourceTreeReordered : Folder where
  path := .ofString "src"
  conduct := {}
  entries :=
    [.leaf "word.rs" (.file oneWord),
      .directory "lib" {} [.leaf "locked.rs" (.file lockedFile), .leaf "deep.rs" (.file oneWord)],
      .directory "shut" { opens := false } [], .leaf "link" .linkedDirectory]

theorem sourceTree_reordered : sourceTree.Rearranged sourceTreeReordered := by
  refine ⟨rfl, rfl, _, List.Perm.swap _ _ _,
    .cons (.leaf ..) (.cons ?_ (.cons ?_ (.cons (.leaf ..) .nil)))⟩
  · exact .directory "lib" {} (List.Perm.swap _ _ _) (.cons (.leaf ..) (.cons (.leaf ..) .nil))
  · exact .directory "shut" { opens := false } .nil .nil

theorem sourceTree_named : Entry.Named sourceTree.entries := by
  refine .intro (by decide) (by decide) ?_
  intro name conduct inner member
  simp only [sourceTree, List.mem_cons, Entry.directory.injEq, reduceCtorEq, List.not_mem_nil,
    or_false, false_or] at member
  rcases member with ⟨_, _, rfl⟩ | ⟨_, _, rfl⟩
  · exact .intro (by decide) (by decide) (by simp)
  · exact .intro (by decide) (by decide) (by simp)

theorem sourceTree_steady : sourceTree.Steady fun _ => false := by
  intro listed member opens
  simp [Folder.visited_eq, Folder.folders, Folder.delivered, Entry.folder?, sourceTree] at member
  rcases member with rfl | rfl | rfl
  · rfl
  · exact absurd opens (by decide)
  · rfl

theorem sourceTree_narrow : ∀ file ∈ (Walker.start sourceTree fun _ => false).drain.1,
    ∀ tree, file.content.tree = some tree → tree.Narrow := by
  intro file found
  have own : file.content = oneWord ∨ file.content = lockedFile := by
    rw [Walker.drain_eq_filesLeft, Walker.filesLeft_start] at found
    simp [Folder.visit_eq, Folder.files, Folder.folders, Folder.delivered, Entry.file?, Entry.folder?,
      sourceTree, Leaf.content?] at found
    rcases found with rfl | rfl | rfl <;> simp
  rcases own with own | own
  · rw [own]
    exact oneWord_narrow
  · rw [own]
    exact fun tree impossible => by cases impossible

theorem sourceTree_rearranged :
    sourceTree.Rearranged sourceTreeReordered ∧
    ∃ registry, freshShelf.opened = .ok registry ∧
      (∀ callback, (some fun _ => false : Option SkipCallback) = some callback →
        ∀ told, callback told = false) ∧
      sourceTree.path.Normal ∧ Entry.Named sourceTree.entries ∧
      (sourceTree.Steady fun _ => false) ∧
      (∀ file ∈ (Walker.start sourceTree fun _ => false).drain.1,
        ∀ tree, file.content.tree = some tree → tree.Narrow) ∧
      let first := (Stream.start sourceTree (fun _ => false) freshShelf (some fun _ => false)).extract
      let second :=
        (Stream.start sourceTreeReordered (fun _ => false) freshShelf (some fun _ => false)).extract
      ∃ table permuted, first.1 = .ok table ∧ second.1 = .ok permuted ∧
        table.namedRows.Perm permuted.namedRows ∧
        first.2.1.reported.Perm second.2.1.reported ∧
        first.2.1.stats.directoriesSkipped = second.2.1.stats.directoriesSkipped ∧
        ∀ path, table.rowsOfFile path <:+: table.namedRows ∧
          permuted.rowsOfFile path <:+: permuted.namedRows ∧
          permuted.rowsOfFile path = table.rowsOfFile path := by
  have normal : sourceTree.path.Normal := Path.normal_ofString "src"
  exact ⟨sourceTree_reordered, _, rfl, calm_of_silent, normal, sourceTree_named, sourceTree_steady,
    sourceTree_narrow, Stream.extract_rearranged sourceTree_reordered (fun _ => false) freshShelf
      (some fun _ => false) rfl calm_of_silent normal sourceTree_named sourceTree_steady
      sourceTree_narrow⟩

end SourceIndex
