import Mathlib.Data.List.Forall2
import SourceIndex.Embedding
import SourceIndex.Proofs.Dataset.ChunkTable
import SourceIndex.Proofs.Embedding.BatchRuns
import SourceIndex.Proofs.Table.Placement

/-! # The column of vectors among the others

With a client that embeds each text by itself the column of vectors is settled by the column of texts
(`addVectors_of_embeds`), which it leaves as it is, as it does all others.  So adding it once more
changes nothing. -/
set_option autoImplicit false
namespace SourceIndex

def Value.ofVector (components : List Float) : Value := .list (components.map .real)

/-- The text that a value is, empty where it is missing. -/
def Value.textOrEmpty : Value → String
  | .text s => s
  | _ => ""

def Column.HoldsTexts (column : Column) : Prop :=
  ∀ v ∈ column.values, v = .null ∨ ∃ s, v = .text s

/-- The client embeds each text by itself, whenever it is called. -/
def EmbedsBy (f : String → List Float) (client : ValueClient) : Prop :=
  ∀ (call : Nat) (texts : List String),
    client call (texts.map .text) = .ok (texts.map fun text => .ofVector (f text))

/-- The vectors of the texts in a column, in single precision. -/
def vectorColumn (f : String → List Float) (texts : Column) : Column where
  name := "embedding"
  type := vectorType
  values := texts.values.map fun v => .ofVector ((f v.textOrEmpty).map Precision.single.narrow)

theorem fit_ofVector (components : List Float) :
    vectorType.fit (.ofVector components) =
      .ok (.ofVector (components.map Precision.single.narrow)) := by
  have each : ColumnType.eachFitted (ColumnType.fit (.float .single)) (components.map .real) =
      .ok (components.map fun x => .real (Precision.single.narrow x)) :=
    ColumnType.eachFitted_map fun _ _ => rfl
  rw [vectorType, Value.ofVector, ColumnType.fit, each, Value.ofVector, List.map_map]
  rfl

theorem Column.HoldsTexts.textToEmbed {column : Column} (holds : column.HoldsTexts) :
    column.values.map textToEmbed = (column.values.map Value.textOrEmpty).map .text := by
  rw [List.map_map]
  apply List.map_congr_left
  intro v among
  rcases holds v among with rfl | ⟨s, rfl⟩
  · rfl
  · rfl

section
variable {f : String → List Float} {client : ValueClient} {size : Nat}

theorem EmbedsBy.embedTexts (embeds : EmbedsBy f client) (positive : 0 < size)
    (texts : List String) :
    (embedTexts client size (texts.map .text)).1 =
      .ok (texts.map fun text => .ofVector (f text)) := by
  have each (i : Nat) : client i (sliceAt size (texts.map Value.text) i) =
      .ok ((sliceAt size (texts.map Value.text) i).map fun v =>
        .ofVector (f (Value.textOrEmpty v))) := by
    rw [sliceAt, ← List.map_drop, ← List.map_take, embeds, List.map_map]
    rfl
  rw [embedTexts_of_each positive each, List.map_map]
  rfl

namespace Table

variable {table : Table} {texts : Column}

theorem addVectors_of_embeds (embeds : EmbedsBy f client) (positive : 0 < size)
    (distinct : table.columnNames.Nodup) (found : table.column? "text" = some texts)
    (holds : texts.HoldsTexts) :
    (table.addVectors client size).1 = .ok (table.setColumn (vectorColumn f texts)) := by
  have embedded := embeds.embedTexts positive (texts.values.map Value.textOrEmpty)
  have fits : vectorType.fitAll ((texts.values.map Value.textOrEmpty).map fun text =>
      .ofVector (f text)) = .ok (vectorColumn f texts).values := by
    rw [List.map_map]
    exact ColumnType.eachFitted_map fun v _ => fit_ofVector (f v.textOrEmpty)
  unfold addVectors
  simp only [found, if_pos (count_columnNames distinct found)]
  rw [holds.textToEmbed]
  cases given : SourceIndex.embedTexts client size
      ((texts.values.map Value.textOrEmpty).map .text) with
  | mk result trace =>
      rw [given] at embedded
      cases embedded
      simp only [Column.ofValues, fits]
      rfl

/-- The row as it is with its vector: the vector is that of the row's own text, and nothing else is
another. -/
structure RowWithVector (f : String → List Float) (own row : Entries) : Prop where
  others : ∀ name, name ≠ "embedding" → Value.lookup name row = Value.lookup name own
  vector : ∃ v, Value.lookup "text" own = some v ∧ Value.lookup "embedding" row =
    some (.ofVector ((f v.textOrEmpty).map Precision.single.narrow))

theorem length_vectorColumn (even : table.Even) (found : table.column? "text" = some texts) :
    (vectorColumn f texts).values.length = table.rowCount :=
  (List.length_map _).trans (even texts (List.mem_of_find?_eq_some found))

theorem rows_setColumn (even : table.Even) (distinct : table.columnNames.Nodup)
    (found : table.column? "text" = some texts) :
    List.Forall₂ (RowWithVector f) table.namedRows
      (table.setColumn (vectorColumn f texts)).namedRows := by
  have some : table.columns ≠ [] := List.ne_nil_of_mem (List.mem_of_find?_eq_some found)
  have long := length_vectorColumn (f := f) even found
  rw [namedRows_eq_of_nodup even distinct, namedRows_eq_of_nodup (even.setColumn long some)
    (nodup_columnNames_setColumn _ distinct), rowCount_setColumn long some,
    List.forall₂_map_left_iff, List.forall₂_map_right_iff, List.forall₂_same]
  intro i inside
  constructor
  · intro name other
    rw [lookup_entriesAt, lookup_entriesAt, column?_setColumn_of_ne table _ other]
  · have within : i < texts.values.length := by
      rw [even texts (List.mem_of_find?_eq_some found)]
      exact List.mem_range.mp inside
    refine ⟨texts.values[i], ?_, ?_⟩
    · rw [lookup_entriesAt, found]
      simp [within]
    · have there := column?_setColumn_self table (vectorColumn f texts)
      rw [vectorColumn] at there
      rw [lookup_entriesAt, vectorColumn, there]
      simp [within]

end Table

end

/-- Adding the column of vectors leaves the rows and all other columns as they are: the column stands
where it stood before or behind all others, and holds the vectors of the texts of the rows.  Adding it
once more changes nothing. -/
theorem addVectors_frame {f : String → List Float} {table : Table} {texts : Column}
    (even : table.Even) (distinct : table.columnNames.Nodup)
    (found : table.column? "text" = some texts) (holds : texts.HoldsTexts)
    {client again : ValueClient} (embeds : EmbedsBy f client) (embedsAgain : EmbedsBy f again)
    (settings : Settings) (asked askedAgain : Option Int) :
    ∃ embedded, (table.addVectors client (settings.embeddingBatch asked)).1 = .ok embedded ∧
      List.Forall₂ (Table.RowWithVector f) table.namedRows embedded.namedRows ∧
      (embedded.columns.filter fun column => column.name != "embedding") =
        (table.columns.filter fun column => column.name != "embedding") ∧
      embedded.columnNames = (if "embedding" ∈ table.columnNames then table.columnNames
        else table.columnNames ++ ["embedding"]) ∧
      embedded.column? "embedding" = some (vectorColumn f texts) ∧
      embedded.Even ∧ embedded.rowCount = table.rowCount ∧
      (embedded.addVectors again (settings.embeddingBatch askedAgain)).1 = .ok embedded := by
  have some : table.columns ≠ [] := List.ne_nil_of_mem (List.mem_of_find?_eq_some found)
  have long := Table.length_vectorColumn (f := f) even found
  have there := Table.column?_setColumn_self table (vectorColumn f texts)
  refine ⟨table.setColumn (vectorColumn f texts),
    Table.addVectors_of_embeds embeds (settings.embeddingBatch_pos _) distinct found holds,
    Table.rows_setColumn even distinct found, Table.filter_setColumn table (vectorColumn f texts),
    Table.columnNames_setColumn table (vectorColumn f texts), there, even.setColumn long some,
    Table.rowCount_setColumn long some, ?_⟩
  have kept : (table.setColumn (vectorColumn f texts)).column? "text" = .some texts := by
    have other : "text" ≠ "embedding" := by decide
    exact (Table.column?_setColumn_of_ne table (vectorColumn f texts) other).trans found
  rw [Table.addVectors_of_embeds embedsAgain (settings.embeddingBatch_pos _)
      (Table.nodup_columnNames_setColumn _ distinct) kept holds,
    Table.setColumn_of_column? there]

/-- Two rows, one without a text, with numbers where the vectors are to stand. -/
def halfWritten : Table where
  columns :=
    [⟨"embedding", .signed .bits64, [.integer 1, .integer 2]⟩,
      ⟨"text", .text, [.text "let x", .null]⟩, ⟨"size", .unsigned .bits64, [.integer 2, .integer 0]⟩]

def lengthVector (text : String) : List Float := [Float.ofNat text.length, 1.0]

def lengthClient : ValueClient := fun _ batch =>
  .ok (batch.map fun v => .ofVector (lengthVector v.textOrEmpty))

theorem lengthClient_embeds : EmbedsBy lengthVector lengthClient := by
  intro call texts
  rw [lengthClient, List.map_map]
  rfl

theorem halfWritten_frame :
    let texts : Column := ⟨"text", .text, [.text "let x", .null]⟩
    halfWritten.Even ∧ halfWritten.columnNames.Nodup ∧ halfWritten.column? "text" = some texts ∧
    texts.HoldsTexts ∧ EmbedsBy lengthVector lengthClient ∧
    ∃ embedded, (halfWritten.addVectors lengthClient (Settings.embeddingBatch {} none)).1 =
        .ok embedded ∧
      List.Forall₂ (Table.RowWithVector lengthVector) halfWritten.namedRows embedded.namedRows ∧
      (embedded.columns.filter fun column => column.name != "embedding") =
        (halfWritten.columns.filter fun column => column.name != "embedding") ∧
      embedded.columnNames = (if "embedding" ∈ halfWritten.columnNames then halfWritten.columnNames
        else halfWritten.columnNames ++ ["embedding"]) ∧
      embedded.column? "embedding" = some (vectorColumn lengthVector texts) ∧
      embedded.Even ∧ embedded.rowCount = halfWritten.rowCount ∧
      (embedded.addVectors lengthClient (Settings.embeddingBatch {} (some 1))).1 = .ok embedded := by
  intro texts
  have even : halfWritten.Even := by
    intro column among
    simp only [halfWritten, List.mem_cons, List.not_mem_nil, or_false] at among
    rcases among with rfl | rfl | rfl <;> rfl
  have distinct : halfWritten.columnNames.Nodup := by decide
  have found : halfWritten.column? "text" = some texts := rfl
  have holds : texts.HoldsTexts := by
    intro v among
    simp only [texts, List.mem_cons, List.not_mem_nil, or_false] at among
    exact among.symm.imp_right fun written => ⟨_, written⟩
  exact ⟨even, distinct, found, holds, lengthClient_embeds,
    addVectors_frame even distinct found holds lengthClient_embeds lengthClient_embeds {} none
      (some 1)⟩

end SourceIndex
