import SourceIndex.Proofs.Collection.Schemas

/-! # Texts that are handed to the server

The texts in columns of texts are cut before a row is handed to the server.  A column that refers to
texts by number gives texts as well, and these are not cut.  A collection is not made from such a
column, but where there is one already the texts are handed over as they are
(`indexTable_texts_fit_iff`). -/
set_option autoImplicit false
namespace SourceIndex

/-- Whether the values of a type are texts, kept as they are or referred to by number. -/
def ColumnType.givesText : ColumnType → Bool
  | .text => true
  | .longText => true
  | .dictionary inner => inner.givesText
  | _ => false

theorem ColumnType.Storable.isText_of_givesText {type : ColumnType} (storable : type.Storable)
    (gives : type.givesText = true) : type.isText = true := by
  cases storable with
  | text => rfl
  | longText => rfl
  | vectors vectors => cases vectors <;> cases gives
  | _ => cases gives

namespace Table

/-- The column that the rows have under a name: of several, the last. -/
def shown? (table : Table) (name : String) : Option Column :=
  table.columns.reverse.find? fun column => column.name == name

def GivesText (table : Table) (name : String) : Prop :=
  ∃ column, table.shown? name = some column ∧ column.type.givesText = true

/-- The texts of a row fit into the collection. -/
def TextsFit (table : Table) (row : NamedRow) : Prop :=
  ∀ name s, table.GivesText name → (name, Value.text s) ∈ row →
    (Utf8.encode s.toList).length ≤ textLimit

/-- The texts of a row that are not cut fit into the collection. -/
def UncutFit (table : Table) (row : NamedRow) : Prop :=
  ∀ name s, table.GivesText name → name ∉ table.textColumns → (name, Value.text s) ∈ row →
    (Utf8.encode s.toList).length ≤ textLimit

theorem mem_textColumns {table : Table} {name : String} (gives : table.GivesText name)
    (storable : ∀ column ∈ table.columns, column.type.Storable) : name ∈ table.textColumns := by
  obtain ⟨column, shown, texts⟩ := gives
  have among : column ∈ table.columns := List.mem_reverse.mp (List.mem_of_find?_eq_some shown)
  have named : column.name = name := by simpa using List.find?_some shown
  have kept : column ∈ table.columns.filter fun column => column.type.isText :=
    List.mem_filter.mpr ⟨among, (storable column among).isText_of_givesText texts⟩
  rw [← named]
  exact List.mem_map_of_mem kept

/-- Cutting makes all texts fit if those do that are not cut. -/
theorem textsFit_cutIn (table : Table) (row : NamedRow) :
    table.TextsFit (row.map (cutIn table.textColumns)) ↔ table.UncutFit row := by
  constructor
  · intro fit name s gives other among
    apply fit name s gives
    have same : cutIn table.textColumns (name, .text s) = (name, .text s) := if_neg other
    rw [← same]
    exact List.mem_map_of_mem among
  · intro fit name s gives among
    obtain ⟨⟨column, v⟩, there, same⟩ := List.mem_map.mp among
    by_cases texts : column ∈ table.textColumns
    · have cut : cutIn table.textColumns (column, v) = (column, v.cut) := if_pos texts
      rw [cut] at same
      rw [← Value.isLong_text, ← (Prod.mk.inj same).2]
      exact v.isLong_cut
    · have whole : cutIn table.textColumns (column, v) = (column, v) := if_neg texts
      rw [whole] at same
      cases same
      exact fit name s gives texts there

end Table

/-- The rows that are handed over in a part of a call, which makes a collection only from a table that
can be kept in it. -/
structure Handing (table : Table) (occurrences : List Occurrence) (rows : List NamedRow) : Prop where
  handed : occurrences.flatMap Occurrence.rows = rows
  makes : ∀ collection schema indexed metric,
    Occurrence.call (.create collection schema indexed metric) ∈ occurrences → table.Storable

namespace Handing

variable {table : Table} {front back : List Occurrence} {rows more : List NamedRow}

theorem append (first : Handing table front rows) (second : Handing table back more) :
    Handing table (front ++ back) (rows ++ more) where
  handed := by rw [List.flatMap_append, first.handed, second.handed]
  makes := by
    intro collection schema indexed metric made
    rcases List.mem_append.mp made with here | behind
    · exact first.makes collection schema indexed metric here
    · exact second.makes collection schema indexed metric behind

theorem events (table : Table) (events : List Event) : Handing table (events.map .event) [] where
  handed := VectorStore.rows_events events
  makes := by
    intro collection schema indexed metric made
    obtain ⟨_, _, same⟩ := List.mem_map.mp made
    cases same

end Handing

namespace VectorStore

variable (store : VectorStore) (connection : Connection) (table : Table)

theorem handing_connect : Handing table store.connect.2.2 [] := by
  refine ⟨store.rows_connect, ?_⟩
  intro collection schema indexed metric made
  unfold connect at made
  split at made
  · cases made
  · dsimp only at made
    split at made <;> simp at made

theorem handing_createCollection : Handing table (store.createCollection connection table).2 [] := by
  have ends := table.schemaEnds_collectionSchema
  unfold createCollection
  split
  · exact .events table []
  · rename_i schema accepted
    rw [accepted] at ends
    cases ends with
    | made storable => exact ⟨rfl, fun _ _ _ _ _ => storable⟩

theorem handing_prepareCollection : Handing table (store.prepareCollection connection table).2 [] := by
  have asked : Handing table (store.probe connection).2 [] := by
    unfold probe
    dsimp only
    split <;> exact ⟨rfl, fun _ _ _ _ made => by simp at made⟩
  unfold prepareCollection
  split
  · rename_i probed
    rw [probed] at asked
    exact asked
  · rename_i probed
    rw [probed] at asked
    exact asked.append (.events table [_])
  · rename_i probed
    rw [probed] at asked
    exact asked.append (store.handing_createCollection connection table)

theorem create_not_mem_insertions (collection : String) (total : Nat) (made : String)
    (schema : CollectionSchema) (indexed : List String) (metric : String)
    (batches : List (List NamedRow)) : ∀ inserted,
      .call (.create made schema indexed metric) ∉ insertions collection total inserted batches := by
  induction batches with
  | nil => exact fun _ => List.not_mem_nil
  | cons batch rest ih =>
      intro inserted
      simpa [insertions] using ih (inserted + batch.length)

/-- The rows of a table with their texts cut. -/
theorem front_insertRows_cut : (store.insertRows connection table).2.2.flatMap Occurrence.rows <+:
    table.namedRows.map (·.map (cutIn table.textColumns)) := by
  cases broken : (fitRows table.textColumns table.namedRows).failure with
  | none =>
      rw [← Table.value_fitRows_namedRows broken]
      exact store.front_insertRows connection table
  | some failure =>
      rw [insertRows_of_failure store connection table broken, rows_events]
      exact List.nil_prefix

theorem create_not_mem_insertRows (made : String) (schema : CollectionSchema) (indexed : List String)
    (metric : String) :
    .call (.create made schema indexed metric) ∉ (store.insertRows connection table).2.2 := by
  cases broken : (fitRows table.textColumns table.namedRows).failure with
  | some failure =>
      rw [insertRows_of_failure store connection table broken]
      simp
  | none =>
      rw [insertRows_of_none store connection table broken]
      obtain ⟨count, _, _, happened, _⟩ := store.insertBatches_made
        (fitRows table.textColumns table.namedRows).value.length
        (batchesOf store.batchSize (fitRows table.textColumns table.namedRows).value) 0 connection
      have apart := create_not_mem_insertions store.collection
        (fitRows table.textColumns table.namedRows).value.length made schema indexed metric
        ((batchesOf store.batchSize (fitRows table.textColumns table.namedRows).value).take count) 0
      rw [← happened] at apart
      simpa using apart

theorem handing_insertRows : ∃ rows, rows <+: table.namedRows.map (·.map (cutIn table.textColumns)) ∧
    Handing table (store.insertRows connection table).2.2 rows := by
  refine ⟨_, store.front_insertRows_cut connection table, rfl, ?_⟩
  intro collection schema indexed metric made
  exact absurd made (store.create_not_mem_insertRows connection table collection schema indexed metric)

/-- Whatever fails, the rows of a table are handed over from the first on. -/
theorem handing_indexTable : ∃ rows, rows <+: table.namedRows.map (·.map (cutIn table.textColumns)) ∧
    Handing table (store.indexTable table).2.2 rows := by
  have connected := store.handing_connect table
  unfold indexTable
  split
  · rename_i connects
    rw [connects] at connected
    exact ⟨[], List.nil_prefix, connected⟩
  · rename_i connection after occurrences connects
    rw [connects] at connected
    split
    · refine ⟨[], List.nil_prefix, connected.append ⟨rfl, fun _ _ _ _ made => ?_⟩⟩
      simp at made
    · have prepared := after.handing_prepareCollection connection table
      split
      · rename_i prepares
        rw [prepares] at prepared
        exact ⟨[], List.nil_prefix, connected.append prepared⟩
      · rename_i ready more prepares
        rw [prepares] at prepared
        obtain ⟨rows, front, handed⟩ := after.handing_insertRows ready table
        exact ⟨rows, front, (connected.append prepared).append handed⟩

/-- The texts that are handed to the server all fit exactly if those of the table do that are not cut;
they always fit where the collection is made from the table.  An insert that fails is handed the
rows that are inserted where it does not fail. -/
theorem indexTable_texts_fit_iff (store : VectorStore) (table : Table) :
    let occurrences := (store.indexTable table).2.2
    let handed := occurrences.flatMap Occurrence.rows
    ((∀ row ∈ handed, table.TextsFit row) ↔
      ∀ row ∈ table.namedRows.take handed.length, table.UncutFit row) ∧
    (∀ collection schema indexed metric,
      Occurrence.call (.create collection schema indexed metric) ∈ occurrences →
        ∀ row ∈ handed, table.TextsFit row) := by
  intro occurrences handed
  obtain ⟨rows, front, handing⟩ := store.handing_indexTable table
  have cut : handed = (table.namedRows.take handed.length).map (·.map (cutIn table.textColumns)) := by
    rw [← handing.handed] at front
    rw [List.map_take]
    exact List.prefix_iff_eq_take.mp front
  have fit : (∀ row ∈ handed, table.TextsFit row) ↔
      ∀ row ∈ table.namedRows.take handed.length, table.UncutFit row := by
    rw [cut, List.forall_mem_map, ← cut]
    simp only [table.textsFit_cutIn]
  refine ⟨fit, ?_⟩
  intro collection schema indexed metric made
  have storable := handing.makes collection schema indexed metric made
  apply fit.mpr
  intro row _ name s gives other
  exact absurd (Table.mem_textColumns gives storable.types) other

/-- A table that refers to its one text by number. -/
def numberedTable (s : String) : Table := ⟨[⟨"tag", .dictionary .text, [.text s]⟩]⟩

theorem indexTable_numbered (s : String) :
    let store := make { hasCollection := true } {} none none none
    (store.indexTable (numberedTable s)).1 = .ok 1 ∧
    (store.indexTable (numberedTable s)).2.2.flatMap Occurrence.rows = [[("tag", .text s)]] := by
  intro store
  have even : (numberedTable s).Even := by
    intro column among
    rw [List.mem_singleton.mp among]
    rfl
  have ok : (store.indexTable (numberedTable s)).1 = .ok 1 := by
    have fitted : fitRows (numberedTable s).textColumns (numberedTable s).namedRows =
        { value := [[("tag", .text s)]] } := rfl
    have some : (numberedTable s).rowCount = 1 := rfl
    simp [store, make, indexTable, connect, prepareCollection, probe, insertRows, fitted, some,
      batchesOf, insertBatches]
  exact ⟨ok, (indexTable_ok even ok).2⟩

/-- A text that is referred to by number is handed to a collection that is there however long it is. -/
theorem numbered_text_is_not_cut :
    let table := numberedTable (String.ofList (List.replicate 65536 'a'))
    let store := make { hasCollection := true } {} none none none
    (store.indexTable table).1 = .ok 1 ∧
    ∃ row ∈ (store.indexTable table).2.2.flatMap Occurrence.rows, ¬table.TextsFit row := by
  intro table store
  obtain ⟨ok, handed⟩ := indexTable_numbered (String.ofList (List.replicate 65536 'a'))
  refine ⟨ok, _, handed ▸ List.mem_singleton_self _, ?_⟩
  intro fit
  have small := fit "tag" _ ⟨_, rfl, rfl⟩ List.mem_cons_self
  rw [String.toList_ofList, Utf8.length_encode_replicate] at small
  revert small
  decide

end VectorStore

end SourceIndex
