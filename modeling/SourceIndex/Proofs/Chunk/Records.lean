import SourceIndex.Dataset.Columns
import SourceIndex.Proofs.Chunk.RowSpans
import SourceIndex.Proofs.Text.Blanks

/-! # Records of chunks

The rows of a chunk were counted in bytes and the lines of a file are cut from its text.  The two
agree, so the lines of a chunk exist and show all words of its bytes, and no chunk is lost when
records without text are left out. -/
set_option autoImplicit false
namespace SourceIndex

open Utf8 (Boundary decode lineFeed)
open Text (withoutBlanks)

/-- The texts of gathered records are those that the records have. -/
theorem RecordColumns.texts_extend (records : List Record) : ∀ columns : RecordColumns,
    (columns.extend records).texts = columns.texts ++ records.filterMap (·.text) := by
  induction records with
  | nil => intro columns; simp [extend]
  | cons record rest ih =>
      intro columns
      have step : columns.extend (record :: rest) = (columns.append record).2.extend rest := rfl
      rw [step, ih]
      cases text : record.text with
      | none => simp [append, text]
      | some shown => simp [append, text, push]

/-- A row of the buffer has its line in the file. -/
theorem SourceFile.rowOf_lt_length_lines (path : Path) {code : List UInt8} {offset : Nat}
    (inside : offset < code.length) :
    rowOf code offset < (SourceFile.ofBytes path code).lines.length := by
  have found : rowOf code offset < (Text.rows lineFeed code).length :=
    Text.count_take_lt_length_rows inside
  simp only [ofBytes, Text.splitLines, Utf8.rows_decode, List.length_map]
  exact found

/-- The text of a span in the text of its buffer, less a line feed that ends the span: in front of
it and inside it stand as many line feeds as the rows of the span tell. -/
theorem exists_text_of_span {code : List UInt8} {start last : Nat}
    (startBoundary : Boundary code start) (stopBoundary : Boundary code (last + 1))
    (order : start ≤ last) :
    ∃ front part back, decode code = front ++ (part ++ back) ∧
      rowOf code start = front.count '\n' ∧
      rowOf code last = rowOf code start + part.count '\n' ∧
      withoutBlanks part = withoutBlanks (decode (slice code start (last + 1))) := by
  have inside : last < code.length := stopBoundary.1
  have text : decode code = decode (code.take start) ++
      (decode (slice code start (last + 1)) ++ decode (code.drop (last + 1))) := by
    have ahead := Utf8.decode_drop (Utf8.boundary_zero code) startBoundary (Nat.zero_le start)
    have behind := Utf8.decode_drop startBoundary stopBoundary (Nat.le_succ_of_le order)
    rw [behind] at ahead
    simpa [slice] using ahead
  have rows := rowOf_add_count code order
  have span := Utf8.slice_succ order inside
  -- a line feed at the end belongs to the row in front of it, and the rows stop before it
  by_cases breaks : code[last] = lineFeed
  · have shown : decode (slice code start (last + 1)) = decode (slice code start last) ++ ['\n'] := by
      rw [span, breaks, Utf8.decode_append_lineFeed, Utf8.decode_nil]
    refine ⟨decode (code.take start), decode (slice code start last),
      '\n' :: decode (code.drop (last + 1)), ?_, ?_, ?_, ?_⟩
    · rw [text, shown, List.append_assoc]
      rfl
    · rw [Utf8.count_decode]
      rfl
    · rw [Utf8.count_decode, rows]
    · have blank : withoutBlanks ['\n'] = [] := by decide
      rw [shown, Text.withoutBlanks_append, blank, List.append_nil]
  · refine ⟨decode (code.take start), decode (slice code start (last + 1)),
      decode (code.drop (last + 1)), text, ?_, ?_, rfl⟩
    · rw [Utf8.count_decode]
      rfl
    · have other : [code[last]].count lineFeed = 0 := by
        simp [breaks]
      rw [Utf8.count_decode, span, List.count_append, other, Nat.add_zero, rows]

/-- The record shows its chunk: its lines are lines of the file, and their text holds all that is
not blank in the bytes of the chunk. -/
structure Record.Shows (file : SourceFile) (chunk : Chunk) (record : Record) : Prop where
  startLine : record.startLine = chunk.startRow
  stopLine : record.stopLine = chunk.stopRow
  size : record.size = chunk.size
  nonneg : 0 ≤ record.startLine
  forward : record.startLine < record.stopLine
  inFile : record.stopLine ≤ file.lines.length
  text : ∃ text, record.text = some text ∧
    withoutBlanks (decode (slice file.bytes chunk.start chunk.stop)) <:+: withoutBlanks text.toList

/-- A chunk with a word, between boundaries and on its rows, is shown by its record. -/
theorem SourceFile.recordOf_shows (path : Path) {code : List UInt8} {chunk : Chunk}
    (startBoundary : Boundary code chunk.start) (stopBoundary : Boundary code chunk.stop)
    (rows : chunk.OnRows code)
    (word : Text.allBlank (decode (slice code chunk.start chunk.stop)) = false) :
    Record.Shows (ofBytes path code) chunk ((ofBytes path code).recordOf chunk) := by
  have nonempty := rows.nonempty
  obtain ⟨last, ends⟩ : ∃ last, chunk.stop = last + 1 := ⟨chunk.stop - 1, by omega⟩
  have order : chunk.start ≤ last := by omega
  rw [ends] at stopBoundary word
  have stopRow : chunk.stopRow = rowOf code last + 1 := by
    rw [rows.stopRow, ends]
    rfl
  have inFile : chunk.stopRow ≤ (ofBytes path code).lines.length := by
    rw [stopRow]
    exact rowOf_lt_length_lines path stopBoundary.1
  have forward : chunk.startRow < chunk.stopRow := by
    have mono := rowOf_mono code order
    rw [rows.startRow, stopRow]
    omega
  obtain ⟨front, part, back, whole, before, within, shown⟩ :=
    exists_text_of_span startBoundary stopBoundary order
  have words : withoutBlanks part ≠ [] := by
    rw [shown]
    intro nothing
    rw [(Text.withoutBlanks_eq_nil_iff _).mp nothing] at word
    exact absurd word (by decide)
  have lines : (ofBytes path code).lines = Text.splitLines (front ++ (part ++ back)) :=
    congrArg Text.splitLines whole
  have span : chunk.stopRow = chunk.startRow + part.count '\n' + 1 := by
    rw [stopRow, within, rows.startRow]
  rw [lines] at inFile
  obtain ⟨text, joined, inside⟩ :=
    Text.exists_joinLines (rows.startRow.trans before) span inFile words
  rw [shown, ← ends] at inside
  refine ⟨rfl, rfl, rfl, Int.natCast_nonneg _, Int.ofNat_lt.mpr forward,
    Int.ofNat_le.mpr (lines ▸ inFile), String.ofList text, ?_, ?_⟩
  · simp only [recordOf]
    rw [lines, joined]
    rfl
  · rw [String.toList_ofList]
    exact inside

/-- The records of a tree's chunks show them. -/
theorem splitNode_shows (path : Path) {splitter : Splitter} (words : splitter.measure = .words)
    {code : List UInt8} {root : SyntaxNode} (nested : root.Nested code)
    (located : root.Located code) : ∀ chunk ∈ splitter.splitNode code root,
      Record.Shows (.ofBytes path code) chunk ((SourceFile.ofBytes path code).recordOf chunk) := by
  intro chunk member
  have ofTree := Splitter.splitNode_ofTree nested chunk member
  have rows := Splitter.splitNode_onRows nested located chunk member
  have word : Text.allBlank (decode (slice code chunk.start chunk.stop)) = false := by
    have heavy := ofTree.heavy
    rw [ofTree.exact_size, words] at heavy
    apply Bool.eq_false_iff.mpr
    intro blank
    have none := (Text.wordCount_eq_zero_iff _).mpr blank
    exact absurd none (Nat.ne_of_gt heavy)
  exact SourceFile.recordOf_shows path (ofTree.startBoundary nested) (ofTree.stopBoundary nested)
    rows word

/-- Every chunk of a file becomes a record that shows it, in order, and none is left out when the
records are gathered. -/
theorem chunkFile_shows (path : Path) (language : String) (splitter : Splitter)
    (words : splitter.measure = .words) (code : List UInt8) (root : SyntaxNode)
    (nested : root.Nested code) (located : root.Located code) :
    ∃ chunks records events, splitter.split code (some root) = .ok chunks ∧
      chunkFile path (.ok code) language (fun bytes => splitter.split bytes (some root)) =
        .ok (records, events) ∧
      records.length = chunks.length ∧
      (∀ pair ∈ chunks.zip records, Record.Shows (.ofBytes path code) pair.1 pair.2) ∧
      (RecordColumns.extend {} records).count = chunks.length := by
  let file := SourceFile.ofBytes path code
  let chunks := splitter.splitNode code root
  have shows : ∀ chunk ∈ chunks, Record.Shows file chunk (file.recordOf chunk) :=
    splitNode_shows path words nested located
  refine ⟨chunks, chunks.map file.recordOf, [file.chunked language (chunks.map file.recordOf)], rfl,
    rfl, List.length_map _, ?_, ?_⟩
  · intro pair member
    rw [← List.map_prod_left_eq_zip] at member
    obtain ⟨chunk, among, rfl⟩ := List.mem_map.mp member
    exact shows chunk among
  · have kept : ∀ record ∈ chunks.map file.recordOf, record.text.isSome := by
      intro record member
      obtain ⟨chunk, among, rfl⟩ := List.mem_map.mp member
      obtain ⟨text, present, _⟩ := (shows chunk among).text
      rw [present]
      rfl
    rw [RecordColumns.count, RecordColumns.texts_extend, List.length_append,
      List.filterMap_length_eq_length.mpr kept, List.length_map]
    exact Nat.zero_add _

theorem twoRows_shows :
    Splitter.twoWords.measure = .words ∧ Splitter.twoRowsTree.Nested Splitter.twoRows ∧
    Splitter.twoRowsTree.Located Splitter.twoRows ∧
    ∃ chunks records events,
      Splitter.twoWords.split Splitter.twoRows (some Splitter.twoRowsTree) = .ok chunks ∧
      chunkFile (.ofString "a.rs") (.ok Splitter.twoRows) "rust"
        (fun bytes => Splitter.twoWords.split bytes (some Splitter.twoRowsTree)) =
        .ok (records, events) ∧
      records.length = chunks.length ∧
      (∀ pair ∈ chunks.zip records,
        Record.Shows (.ofBytes (.ofString "a.rs") Splitter.twoRows) pair.1 pair.2) ∧
      (RecordColumns.extend {} records).count = chunks.length := by
  have words : Splitter.twoWords.measure = .words := rfl
  have nested : Splitter.twoRowsTree.Nested Splitter.twoRows := by decide
  have located : Splitter.twoRowsTree.Located Splitter.twoRows := by decide
  exact ⟨words, nested, located, chunkFile_shows (.ofString "a.rs") "rust" Splitter.twoWords words
    Splitter.twoRows Splitter.twoRowsTree nested located⟩

end SourceIndex
