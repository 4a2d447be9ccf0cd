import SourceIndex.Proofs.Chunk.Extents
import SourceIndex.Proofs.Dataset.RecordRows

/-! # What an extraction gives

Where the registry is built and the callback does not give up, the rows of the extracted table are those
of the records of all files that are found, in order (`extract_of_calm`): the numbers in a record fit
their columns if the parser counts in 32 bits. -/
set_option autoImplicit false
namespace SourceIndex

theorem flatMap_filter {α β : Type} (keep : α → Bool) (give : α → List β) (items : List α) :
    (items.filter keep).flatMap give =
      items.flatMap fun item => if keep item then give item else [] := by
  induction items with
  | nil => rfl
  | cons item rest ih =>
      rw [List.flatMap_cons, ← ih, List.filter_cons]
      split <;> rfl

namespace FileOutcome

theorem filePath_of_mem_records {opened : Except Failure Registry} {file : FoundFile}
    {record : Record} (member : record ∈ (of opened file).records) :
    record.filePath = file.path.text := by
  obtain ⟨_, _, _, _, _, chunk, _, rfl⟩ := exists_chunk_of_mem_records member
  rfl

theorem fits_of_mem_records {opened : Except Failure Registry} {file : FoundFile}
    (narrow : ∀ tree, file.content.tree = some tree → tree.Narrow) {record : Record}
    (member : record ∈ (of opened file).records) : record.Fits := by
  obtain ⟨splitter, bytes, root, _, tree, chunk, among, rfl⟩ := exists_chunk_of_mem_records member
  obtain ⟨stop, startRow, stopRow, size⟩ := Splitter.splitNode_narrow (narrow root tree) chunk among
  constructor <;> simp only [SourceFile.recordOf, Unsigned64, IntegerWidth.values] <;> omega

end FileOutcome

namespace Stream

theorem extract_of_calm (root : Folder) {ignored : String → Bool} {shelf : LanguageShelf}
    {onSkip : Option SkipCallback} {registry : Registry} (built : shelf.opened = .ok registry)
    (calm : ∀ callback, onSkip = some callback → ∀ told, callback told = false)
    (fits : ∀ record ∈ (root.visit ignored).flatMap fun file =>
      (FileOutcome.of shelf.opened file).records, record.Fits) :
    ∃ table, (start root ignored shelf onSkip).extract.1 = .ok table ∧
      table.namedRows = ((root.visit ignored).flatMap fun file =>
        (FileOutcome.of shelf.opened file).records).filterMap Record.row? := by
  obtain ⟨table, made⟩ := tableOf_ok fits
  have whole : (start root ignored shelf onSkip).drain.2.1 = none := drain_of_calm built calm
  have records := (drain_of_none rfl whole).1
  have files : (start root ignored shelf onSkip).walker.filesLeft = root.visit ignored :=
    Walker.filesLeft_start root ignored
  rw [files] at records
  refine ⟨table, ?_, namedRows_of_tableOf made⟩
  rw [extract_eq, whole, records]
  exact made

theorem directoriesSkipped_close (stream : Stream) :
    stream.close.stats.directoriesSkipped = stream.walker.skipped :=
  Walker.skipped_release stream.walker

/-- Behind an extraction all listings that failed on the way through the tree have been counted. -/
theorem directoriesSkipped_extract {root : Folder} {ignored : String → Bool} {shelf : LanguageShelf}
    {onSkip : Option SkipCallback} {table : Table}
    (extracted : (start root ignored shelf onSkip).extract.1 = .ok table) :
    (start root ignored shelf onSkip).extract.2.1.stats.directoriesSkipped =
      (root.visited ignored).countP Folder.fails := by
  rw [extract_last, directoriesSkipped_close]
  rw [extract_eq] at extracted
  cases whole : (start root ignored shelf onSkip).drain.2.1 with
  | some failure => simp [whole] at extracted
  | none =>
      have counted := skipped_of_drain whole
      rw [start, Walker.failuresLeft_start] at counted
      exact counted.trans (Nat.zero_add _)

end Stream

theorem calm_of_silent : ∀ callback, (some fun _ => false : Option SkipCallback) = some callback →
    ∀ told, callback told = false := by
  intro callback given told
  cases given
  rfl

def oneWord : FileContent := ⟨.ok [0x61], some (.node ⟨0, 1, ⟨0, 0⟩, ⟨0, 1⟩⟩ [])⟩

theorem oneWord_narrow : ∀ tree, oneWord.tree = some tree → tree.Narrow := by
  intro tree given
  cases given
  intro node within
  cases within with
  | self => constructor <;> decide
  | deeper among _ => cases among

end SourceIndex
