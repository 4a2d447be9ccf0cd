import SourceIndex.Proofs.Dataset.Extraction
import SourceIndex.Proofs.Stream.Runs
import SourceIndex.Proofs.Walk.Damage

/-! # The chunk dataset of a damaged tree

Files that cannot be read or parsed and directories that cannot be listed cost their own rows and no
others (`extract_damaged`): the rows that are left stand in their old order, and the callback is told of
each supported file that is reached and cannot be chunked. -/
set_option autoImplicit false
namespace SourceIndex

/-- The file has a language, and chunking it fails. -/
def FoundFile.failsToChunk (registry : Registry) (file : FoundFile) : Bool :=
  match registry.ofPath file.path with
  | none => false
  | some language =>
    match chunkFile file.path file.content.bytes language.name
        fun bytes => language.splitter.split bytes file.content.tree with
    | .ok _ => false
    | .error _ => true

/-- The file of the row is damaged, or a directory on the way to it is. -/
def Damage.spoilsRow (damage : Damage) (root : Path) (row : Entries) : Bool :=
  match Value.lookup "file_path" row with
  | some (.text path) => damage.spoils (root.namesBelow (.ofString path))
  | _ => false

def Damage.spoilsRecord (damage : Damage) (root : Path) (record : Record) : Bool :=
  damage.spoils (root.namesBelow (.ofString record.filePath))

namespace FileOutcome

theorem path_of_skipped? (registry : Registry) (file : FoundFile) :
    (of (.ok registry) file).skipped?.map SkippedFile.path =
      if file.failsToChunk registry then some file.path else none := by
  rw [of, languageOf_ok, FoundFile.failsToChunk]
  cases registry.ofPath file.path with
  | none => rfl
  | some language =>
      rcases ofLanguage_cases file language with ⟨_, _, chunked, outcome⟩ | ⟨_, fails, outcome⟩
      · simp [ofAnswer, outcome, skipped?, chunked]
      · simp [ofAnswer, outcome, skipped?, fails]

theorem records_of_damaged (opened : Except Failure Registry) (root : Path) (damage : Damage)
    (file : FoundFile) (hit : (damage (root.namesBelow file.path)).isSome = true) :
    (of opened (file.damaged root damage)).records = [] := by
  refine List.eq_nil_iff_forall_not_mem.mpr ?_
  intro record member
  obtain ⟨_, _, _, bytes, tree, _⟩ := exists_chunk_of_mem_records member
  rw [FoundFile.damaged] at bytes tree
  cases harm : damage (root.namesBelow file.path) with
  | none => simp [harm] at hit
  | some harm' =>
      cases harm' with
      | unreadable fault => simp [harm, FileContent.damaged] at bytes
      | unparsed => simp [harm, FileContent.damaged] at tree

end FileOutcome

section
variable {ignored : String → Bool} {opened : Except Failure Registry} (damage : Damage)
  {root : Folder}

theorem records_damaged (normal : root.path.Normal) (named : Entry.Named root.entries)
    {file : FoundFile} (found : file ∈ root.visit ignored) :
    (if damage.reaches root.path file then
        (FileOutcome.of opened (file.damaged root.path damage)).records
      else []) =
      (FileOutcome.of opened file).records.filter (!damage.spoilsRecord root.path ·) := by
  obtain ⟨names, nonempty, path⟩ := Folder.exists_path_of_mem_visit root named found
  have place : root.path.namesBelow file.path = names := by
    rw [path, Path.namesBelow_below]
  have spoiled : damage.spoils names =
      (!damage.reaches root.path file || (damage names).isSome) := by
    rw [Damage.reaches, place, Bool.not_not]
    have whole := Damage.spoils_concat names.dropLast (names.getLast nonempty) damage
    rw [List.dropLast_append_getLast] at whole
    exact whole
  have each : ∀ record ∈ (FileOutcome.of opened file).records,
      damage.spoilsRecord root.path record = damage.spoils names := by
    intro record member
    rw [Damage.spoilsRecord, FileOutcome.filePath_of_mem_records member,
      Path.ofString_text (Folder.normal_of_mem_visit root normal named found), place]
  have kept : (FileOutcome.of opened file).records.filter (!damage.spoilsRecord root.path ·) =
      if damage.spoils names then [] else (FileOutcome.of opened file).records := by
    split
    · rename_i bad
      refine List.filter_eq_nil_iff.mpr ?_
      intro record member
      simp [each record member, bad]
    · rename_i good
      refine List.filter_eq_self.mpr ?_
      intro record member
      simp [each record member, good]
  rw [kept, spoiled]
  cases damage.reaches root.path file with
  | false => rfl
  | true =>
      cases hit : damage names with
      | none =>
          have same : file.damaged root.path damage = file := by
            rw [FoundFile.damaged, place, hit]
            rfl
          rw [same]
          rfl
      | some harm =>
          have none :=
            FileOutcome.records_of_damaged opened root.path damage file (by simp [place, hit])
          simp [none]

variable (ignored opened) in
theorem visit_records_damaged (normal : root.path.Normal) (named : Entry.Named root.entries) :
    ((root.damaged damage).visit ignored).flatMap (fun file => (FileOutcome.of opened file).records) =
      ((root.visit ignored).flatMap fun file => (FileOutcome.of opened file).records).filter
        (!damage.spoilsRecord root.path ·) := by
  rw [Folder.visit_damaged ignored root damage named, List.flatMap_map, flatMap_filter,
    List.filter_flatMap]
  exact List.flatMap_congr fun file found => records_damaged damage normal named found

theorem rows_filter (records : List Record) (path : Path) :
    (records.filter (!damage.spoilsRecord path ·)).filterMap Record.row? =
      (records.filterMap Record.row?).filter (!damage.spoilsRow path ·) := by
  rw [List.filterMap_filter, List.filter_filterMap]
  refine List.filterMap_congr ?_
  intro record _
  cases text : record.text with
  | none => simp [Record.row?, text]
  | some shown =>
      have same : damage.spoilsRow path (record.rowWith shown) = damage.spoilsRecord path record := rfl
      cases spoils : damage.spoilsRecord path record <;>
        simp [Record.row?, text, Option.filter, same, spoils]

end

namespace Stream

/-- Damage to files and directories costs the rows of these files, and of the files below these
directories, and no others. -/
theorem extract_damaged (root : Folder) (ignored : String → Bool) (shelf : LanguageShelf)
    (onSkip : Option SkipCallback) (damage : Damage) {registry : Registry}
    (built : shelf.opened = .ok registry)
    (calm : ∀ callback, onSkip = some callback → ∀ told, callback told = false)
    (normal : root.path.Normal) (named : Entry.Named root.entries)
    (narrow : ∀ file ∈ (Walker.start root ignored).drain.1,
      ∀ tree, file.content.tree = some tree → tree.Narrow) :
    let whole := (start root ignored shelf onSkip).extract
    let damaged := (start (root.damaged damage) ignored shelf onSkip).extract
    let found := (Walker.start (root.damaged damage) ignored).drain.1
    let failing := (found.filter (FoundFile.failsToChunk registry)).map FoundFile.path
    ∃ table left, whole.1 = .ok table ∧ damaged.1 = .ok left ∧
      left.namedRows = table.namedRows.filter (!damage.spoilsRow root.path ·) ∧
      damaged.2.1.reported.map SkippedFile.path = (if onSkip.isSome then failing else []) ∧
      failing.Nodup := by
  intro whole damaged found failing
  rw [Walker.drain_eq_filesLeft, Walker.filesLeft_start] at narrow
  have visited : found = (root.damaged damage).visit ignored := by
    rw [← Walker.filesLeft_start]
    exact Walker.drain_eq_filesLeft _
  have fits : ∀ record ∈ (root.visit ignored).flatMap fun file =>
      (FileOutcome.of shelf.opened file).records, record.Fits := by
    intro record member
    obtain ⟨file, among, inFile⟩ := List.mem_flatMap.mp member
    exact FileOutcome.fits_of_mem_records (narrow file among) inFile
  have records := visit_records_damaged ignored shelf.opened damage normal named
  have stillFits : ∀ record ∈ ((root.damaged damage).visit ignored).flatMap fun file =>
      (FileOutcome.of shelf.opened file).records, record.Fits := by
    rw [records]
    exact fun record member => fits record (List.mem_filter.mp member).1
  obtain ⟨table, extracted, rows⟩ := extract_of_calm root built calm fits
  obtain ⟨left, extractedLeft, rowsLeft⟩ := extract_of_calm (root.damaged damage) built calm stillFits
  refine ⟨table, left, extracted, extractedLeft, ?_, ?_, ?_⟩
  · rw [rowsLeft, rows, records, rows_filter]
  · have told := reported_extract extractedLeft
    rw [built, ← visited] at told
    have each : failing = found.filterMap fun file =>
        if file.failsToChunk registry then some file.path else none := by
      rw [← List.filterMap_filter]
      exact (congrFun List.filterMap_eq_map _).symm
    rw [told, each]
    split
    · rw [List.map_filterMap]
      exact List.filterMap_congr fun file _ => FileOutcome.path_of_skipped? registry file
    · rfl
  · have paths : found.map FoundFile.path =
        ((root.visit ignored).filter (damage.reaches root.path)).map FoundFile.path := by
      rw [visited, Folder.visit_damaged ignored root damage named, List.map_map]
      rfl
    have distinct : ((root.visit ignored).map FoundFile.path).Nodup :=
      List.pairwise_map.mpr (Folder.distinct_visit root named)
    have once : (found.map FoundFile.path).Nodup := by
      rw [paths]
      exact (List.filter_sublist.map _).nodup distinct
    exact (List.filter_sublist.map _).nodup once

end Stream

/-- A directory with two files beside another with one. -/
def twoStories : Folder where
  path := .ofString "src"
  conduct := {}
  entries :=
    [.directory "lib" {} [.leaf "deep.rs" (.file oneWord)], .leaf "bad.rs" (.file oneWord),
      .leaf "word.rs" (.file oneWord)]

def lostStory : Damage
  | ["lib"] => some .unparsed
  | ["bad.rs"] => some (.unreadable .absent)
  | _ => none

theorem twoStories_named : Entry.Named twoStories.entries := by
  refine .intro (by decide) (by decide) ?_
  intro name conduct inner member
  simp only [twoStories, List.mem_cons, Entry.directory.injEq, reduceCtorEq, List.not_mem_nil,
    or_false] at member
  obtain ⟨_, _, rfl⟩ := member
  exact .intro (by decide) (by decide) (by simp)

theorem twoStories_narrow : ∀ file ∈ (Walker.start twoStories fun _ => false).drain.1,
    ∀ tree, file.content.tree = some tree → tree.Narrow := by
  intro file found
  have own : file.content = oneWord := by
    rw [Walker.drain_eq_filesLeft, Walker.filesLeft_start] at found
    simp [Folder.visit_eq, Folder.files, Folder.folders, Folder.delivered, Entry.file?, Entry.folder?,
      twoStories, Leaf.content?] at found
    rcases found with rfl | rfl | rfl <;> rfl
  rw [own]
  exact oneWord_narrow

theorem twoStories_damaged :
    ∃ registry, freshShelf.opened = .ok registry ∧
      (∀ callback, (some fun _ => false : Option SkipCallback) = some callback →
        ∀ told, callback told = false) ∧
      twoStories.path.Normal ∧ Entry.Named twoStories.entries ∧
      (∀ file ∈ (Walker.start twoStories fun _ => false).drain.1,
        ∀ tree, file.content.tree = some tree → tree.Narrow) ∧
      let whole := (Stream.start twoStories (fun _ => false) freshShelf (some fun _ => false)).extract
      let damaged := (Stream.start (twoStories.damaged lostStory) (fun _ => false) freshShelf
        (some fun _ => false)).extract
      let found := (Walker.start (twoStories.damaged lostStory) fun _ => false).drain.1
      let failing := (found.filter (FoundFile.failsToChunk registry)).map FoundFile.path
      ∃ table left, whole.1 = .ok table ∧ damaged.1 = .ok left ∧
        left.namedRows = table.namedRows.filter (!lostStory.spoilsRow twoStories.path ·) ∧
        damaged.2.1.reported.map SkippedFile.path = failing ∧ failing.Nodup := by
  have normal : twoStories.path.Normal := Path.normal_ofString "src"
  exact ⟨_, rfl, calm_of_silent, normal, twoStories_named, twoStories_narrow,
    Stream.extract_damaged twoStories (fun _ => false) freshShelf (some fun _ => false) lostStory rfl
      calm_of_silent normal twoStories_named twoStories_narrow⟩

end SourceIndex
