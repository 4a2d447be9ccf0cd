import SourceIndex.Embedding
import SourceIndex.Proofs.Collection.TextLimit
import SourceIndex.Proofs.Dataset.ChunkTable
import SourceIndex.Proofs.Embedding.Batches

/-! # Chunks with their vectors

The column of vectors stands behind the columns of the chunk dataset and has, for each row, the
vector that the client gave for the text of the row (`loadedFor_of_addVectors`). -/
set_option autoImplicit false
namespace SourceIndex

theorem Table.addVectors_ok {table embedded : Table} {client : ValueClient} {size : Nat}
    (ok : (table.addVectors client size).1 = .ok embedded) :
    ∃ texts vectors kept, table.column? "text" = some texts ∧
      (embedTexts client size (texts.values.map textToEmbed)).1 = .ok vectors ∧
      vectorType.fitAll vectors = .ok kept ∧
      embedded = table.setColumn ⟨"embedding", vectorType, kept⟩ := by
  unfold addVectors at ok
  cases texts : table.column? "text" with
  | none => simp [texts] at ok
  | some column =>
      by_cases once : table.columnNames.count "text" = 1
      · simp only [texts, if_pos once] at ok
        cases embeds : embedTexts client size (column.values.map textToEmbed) with
        | mk result trace =>
            cases result with
            | error failure => simp [embeds] at ok
            | ok vectors =>
                simp only [embeds, Column.ofValues] at ok
                cases fits : vectorType.fitAll vectors with
                | error failure => simp [fits, Except.map] at ok
                | ok kept =>
                    simp only [fits, Except.map, Except.ok.injEq] at ok
                    exact ⟨column, vectors, kept, rfl, by rw [embeds], fits, ok.symm⟩
      · simp [texts, once] at ok

def Table.texts (table : Table) : List Value :=
  table.namedRows.map fun row => (Value.lookup "text" row).getD .null

/-- What is loaded for a row of the chunk dataset: the row with its texts cut, and behind them the
vector, in single precision, that the client gave for the whole text of the row in its batch. -/
def LoadedFor (chunks : Table) (client : ValueClient) (size i : Nat) (row : NamedRow) : Prop :=
  ∃ own text answer vector kept,
    chunks.namedRows[i]? = some own ∧
    Value.lookup "text" own = some (.text text) ∧
    client (i / size) (batchAt size chunks.texts i) = .ok answer ∧
    (batchAt size chunks.texts i)[i % size]? = some (.text text) ∧
    answer[i % size]? = some vector ∧
    vectorType.fit vector = .ok kept ∧
    row = own.map (fun entry => (entry.1, entry.2.cut)) ++ [("embedding", kept)]

namespace RecordColumns

variable {columns : RecordColumns}

theorem cut_integer? (number : Option Int) :
    ((number.map Value.integer).getD .null).cut = (number.map Value.integer).getD .null := by
  cases number <;> rfl

/-- Only texts can be cut. -/
theorem map_cutIn_entriesAt (columns : RecordColumns) (i : Nat) :
    (columns.table.entriesAt i).map (cutIn ["file_path", "file_name", "text"]) =
      (columns.table.entriesAt i).map fun entry => (entry.1, entry.2.cut) := by
  simp [Table.entriesAt, table, chunkSchema, values, columnOf, cutIn, cut_integer?]

theorem lookup_text_entriesAt (columns : RecordColumns) (i : Nat) :
    Value.lookup "text" (columns.table.entriesAt i) =
      some ((columns.texts.map Value.text).getD i .null) := rfl

theorem Even.texts_table (even : columns.Even) :
    columns.table.texts = columns.texts.map .text := by
  rw [Table.texts, even.namedRows_table, List.map_map]
  refine List.ext_getElem (by simp [count]) ?_
  intro i inside _
  have within : i < columns.texts.length := by simpa [count] using inside
  simp [lookup_text_entriesAt, within]

end RecordColumns

section
variable {columns : RecordColumns} (even : columns.Even) {client : ValueClient} {size : Nat}
  (positive : 0 < size) {embedded : Table}
  (ok : (columns.table.addVectors client size).1 = .ok embedded)
include even positive ok

/-- The vectors of chunks stand in a column behind the others, in the order of the rows. -/
theorem exists_vectors : ∃ kept, embedded = columns.table.push ⟨"embedding", vectorType, kept⟩ ∧
    kept.length = columns.count ∧ ∀ i fitted, kept[i]? = some fitted →
      ∃ vector, Answered client 0 size columns.table.texts i vector ∧
        vectorType.fit vector = .ok fitted := by
  have new : "embedding" ∉ columns.table.columnNames := by
    rw [columns.columnNames_table]
    decide
  obtain ⟨texts, vectors, kept, column, embeds, fits, rfl⟩ := Table.addVectors_ok ok
  -- no text is missing, so the texts that are embedded are those of the rows
  have own : texts = ⟨"text", .text, columns.texts.map .text⟩ := (Option.some.inj column).symm
  have asked : texts.values.map textToEmbed = columns.table.texts := by
    rw [own, even.texts_table, List.map_map]
    rfl
  rw [asked] at embeds
  obtain ⟨long, answers⟩ := embedTexts_ok positive embeds
  have each := ColumnType.map_of_eachFitted fits
  have same : vectors.length = kept.length := by
    simpa using congrArg List.length each
  refine ⟨kept, Table.setColumn_eq_push new, ?_, ?_⟩
  · rw [← same, long, even.texts_table, List.length_map]
    rfl
  · intro i fitted here
    have both := congrArg (·[i]?) each
    simp only [List.getElem?_map, here, Option.map_some] at both
    obtain ⟨vector, given, fit⟩ := Option.map_eq_some_iff.mp both
    exact ⟨vector, answers i vector given, fit⟩

theorem loadedFor_of_addVectors :
    embedded.Even ∧ embedded.columnNames.Nodup ∧ embedded.rowCount = columns.count ∧
      ∀ i row, (embedded.stored.namedRows.map (·.map (cutIn embedded.stored.textColumns)))[i]? =
        some row → LoadedFor columns.table client size i row := by
  obtain ⟨kept, rfl, long, answers⟩ := exists_vectors even positive ok
  have some : columns.table.columns ≠ [] := List.cons_ne_nil _ _
  have evenly : (columns.table.push ⟨"embedding", vectorType, kept⟩).Even :=
    even.table.push some (long.trans even.rowCount_table.symm)
  have count : (columns.table.push ⟨"embedding", vectorType, kept⟩).rowCount = columns.count :=
    (Table.rowCount_push some).trans even.rowCount_table
  have distinct : (columns.table.push ⟨"embedding", vectorType, kept⟩).columnNames.Nodup := by
    have names : ["file_path", "file_name", "start_line", "end_line", "text", "size",
        "embedding"].Nodup := by decide
    exact names
  refine ⟨evenly, distinct, count, ?_⟩
  intro i row here
  rw [Table.namedRows_stored, Table.namedRows_eq_of_nodup evenly distinct, count, List.map_map] at here
  obtain ⟨inside, rfl⟩ := List.getElem?_eq_some_iff.mp here
  simp only [List.length_map, List.length_range] at inside
  have within : i < columns.texts.length := inside
  have fitted : kept[i]? = .some kept[i] := List.getElem?_eq_getElem (long ▸ inside)
  obtain ⟨vector, ⟨answer, given, position⟩, fit⟩ := answers i kept[i] fitted
  refine ⟨columns.table.entriesAt i, columns.texts[i], answer, vector, kept[i], ?_, ?_, ?_, ?_,
    position, fit, ?_⟩
  · simp [even.namedRows_table, inside]
  · simp [RecordColumns.lookup_text_entriesAt, within]
  · rw [Nat.zero_add] at given
    exact given
  · rw [getElem?_batchAt positive, even.texts_table]
    simp [within]
  · have texts : (columns.table.push ⟨"embedding", vectorType, kept⟩).stored.textColumns =
        ["file_path", "file_name", "text"] := rfl
    have whole : cutIn ["file_path", "file_name", "text"] ("embedding", kept[i]) =
        ("embedding", kept[i]) := rfl
    rw [List.getElem_map, List.getElem_range, Function.comp_apply, Table.entriesAt_push, texts,
      List.map_append, columns.map_cutIn_entriesAt]
    simp [whole, fitted]

end

end SourceIndex
