import SourceIndex.Collection
import SourceIndex.Proofs.Collection.TextLimit
import SourceIndex.Proofs.Embedding.Batches
import SourceIndex.Proofs.Table.Rows

/-! # What is inserted into a collection

A table that is loaded without a failure is inserted row by row, in order and each row once, with the
texts in its columns cut (`indexTable_ok`). -/
set_option autoImplicit false
namespace SourceIndex

def ServerCall.rows : ServerCall → List NamedRow
  | .insert _ rows => rows
  | _ => []

def Occurrence.rows : Occurrence → List NamedRow
  | .call made => made.rows
  | _ => []

/-! ## The rows of a table -/

namespace Table

/-- The row that a table is loaded with at a position: under each name the value of the last of its
columns, and where the name is one of a column of texts, a text cut to the limit. -/
def keptRow (table : Table) (i : Nat) : NamedRow :=
  (Value.lastValues (table.entriesAt i)).map (cutIn table.textColumns)

def keptRows (table : Table) : List NamedRow := (List.range table.rowCount).map table.keptRow

/-- Under the names of columns of texts each row has texts, or nothing. -/
def Cuttable (table : Table) : Prop :=
  ∀ i < table.rowCount, CanCut table.textColumns (Value.lastValues (table.entriesAt i))

theorem length_keptRows (table : Table) : table.keptRows.length = table.rowCount := by
  rw [keptRows, List.length_map, List.length_range]

theorem value_fitRows_namedRows {table : Table}
    (unbroken : (fitRows table.textColumns table.namedRows).failure = none) :
    (fitRows table.textColumns table.namedRows).value =
      table.namedRows.map (·.map (cutIn table.textColumns)) := by
  have keys : ∀ row ∈ table.namedRows, (row.map Prod.fst).Nodup := fun _ => nodup_of_mem_namedRows
  exact value_fitRowsFrom table.textColumns 0 keys
    ((cutEnds_fitRowsFrom table.textColumns 0 keys).eq_none_iff.mp unbroken)

section
variable {table : Table} (even : table.Even)
include even

theorem keptRows_eq : table.keptRows = table.namedRows.map (·.map (cutIn table.textColumns)) := by
  rw [namedRows_eq even, List.map_map]
  rfl

theorem cutEnds_namedRows :
    CutEnds table.Cuttable (fitRows table.textColumns table.namedRows).failure := by
  have ends := cutEnds_fitRowsFrom table.textColumns 0
    fun row (among : row ∈ table.namedRows) => nodup_of_mem_namedRows among
  refine ends.congr ?_
  rw [namedRows_eq even, List.forall_mem_map]
  simp only [List.mem_range]
  rfl

end

end Table

namespace VectorStore

/-- What happens while batches are inserted. -/
def insertions (collection : String) (total : Nat) : Nat → List (List NamedRow) → List Occurrence
  | _, [] => []
  | inserted, batch :: rest =>
    .call (.insert collection batch) :: .progress (inserted + batch.length) total ::
      insertions collection total (inserted + batch.length) rest

/-- How inserting so many batches ends that `count` of them are made: behind all, or at one that
fails. -/
inductive InsertsEnd (server : Server) (before : Connection) (count batches rows : Nat)
    (result : Except Failure Nat) (after : Connection) : Prop where
  | all (whole : count = batches) (given : result = .ok rows)
      (last : after = { before with inserts := before.inserts + count })
  | broken (more : count < batches) (fails : server.insertFails (before.inserts + count + 1) = true)
      (given : result = .error (.foreign .runtime "insert failed"))
      (last : after = { before with inserts := before.inserts + (count + 1) })

/-- Batches are inserted up to the first that fails. -/
theorem insertBatches_made (store : VectorStore) (total : Nat) (batches : List (List NamedRow)) :
    ∀ (inserted : Nat) (connection : Connection), ∃ count ≤ batches.length,
      (∀ i < count, store.server.insertFails (connection.inserts + i + 1) = false) ∧
      (store.insertBatches total inserted connection batches).2.2 =
        insertions store.collection total inserted (batches.take count) ∧
      InsertsEnd store.server connection count batches.length (inserted + batches.flatten.length)
        (store.insertBatches total inserted connection batches).1
        (store.insertBatches total inserted connection batches).2.1 := by
  induction batches with
  | nil =>
      intro inserted connection
      exact ⟨0, Nat.le_refl _, fun i impossible => absurd impossible (Nat.not_lt_zero i), rfl,
        .all rfl rfl rfl⟩
  | cons batch rest ih =>
      intro inserted connection
      cases fails : store.server.insertFails (connection.inserts + 1) with
      | true =>
          refine ⟨0, Nat.zero_le _, fun i impossible => absurd impossible (Nat.not_lt_zero i), ?_,
            .broken (Nat.succ_pos _) fails ?_ ?_⟩
          all_goals simp [insertBatches, fails, insertions]
      | false =>
          obtain ⟨count, within, held, happened, ending⟩ :=
            ih (inserted + batch.length) { connection with inserts := connection.inserts + 1 }
          have shift (i : Nat) : connection.inserts + 1 + i + 1 = connection.inserts + (i + 1) + 1 := by
            omega
          refine ⟨count + 1, Nat.succ_le_succ within, ?_, ?_, ?_⟩
          · intro i early
            cases i with
            | zero => exact fails
            | succ i => exact shift i ▸ held i (Nat.lt_of_succ_lt_succ early)
          · simp only [insertBatches, fails, Bool.false_eq_true, if_false, happened]
            rfl
          · simp only [insertBatches, fails, Bool.false_eq_true, if_false, List.length_cons,
              List.flatten_cons, List.length_append]
            cases ending with
            | all whole given last =>
                refine .all (congrArg (· + 1) whole) ?_ ?_
                · rw [given, Nat.add_assoc]
                · rw [last, Nat.add_assoc, Nat.add_comm 1]
            | broken more failing given last =>
                refine .broken (Nat.succ_lt_succ more) (shift count ▸ failing) given ?_
                rw [last, Nat.add_assoc, Nat.add_comm 1]

theorem rows_insertions (collection : String) (total : Nat) (batches : List (List NamedRow)) :
    ∀ inserted, (insertions collection total inserted batches).flatMap Occurrence.rows =
      batches.flatten := by
  induction batches with
  | nil => exact fun _ => rfl
  | cons batch rest ih => exact fun inserted => congrArg (batch ++ ·) (ih _)

/-- Batches that are inserted without a failure are all inserted, in order. -/
theorem insertBatches_ok (store : VectorStore) (total : Nat) (batches : List (List NamedRow))
    {inserted count : Nat} {connection : Connection}
    (ok : (store.insertBatches total inserted connection batches).1 = .ok count) :
    count = inserted + batches.flatten.length ∧
      (store.insertBatches total inserted connection batches).2.2.flatMap Occurrence.rows =
        batches.flatten := by
  obtain ⟨made, _, _, happened, ending⟩ := store.insertBatches_made total batches inserted connection
  cases ending with
  | all whole given _ =>
      rw [given] at ok
      rw [happened, whole, List.take_length, rows_insertions]
      exact ⟨(Except.ok.inj ok).symm, rfl⟩
  | broken _ _ given _ =>
      rw [given] at ok
      cases ok

theorem rows_events (events : List Event) :
    (events.map Occurrence.event).flatMap Occurrence.rows = [] := by
  simp [List.flatMap_map, Occurrence.rows]

section
variable (store : VectorStore) (connection : Connection) (table : Table)

theorem insertRows_of_failure {failure : Failure}
    (broken : (fitRows table.textColumns table.namedRows).failure = some failure) :
    store.insertRows connection table =
      (.error failure, connection,
        (fitRows table.textColumns table.namedRows).events.map .event) := by
  rw [insertRows, broken]

theorem insertRows_of_none
    (unbroken : (fitRows table.textColumns table.namedRows).failure = none) :
    let fitted := fitRows table.textColumns table.namedRows
    let rows := fitted.value
    let inserted :=
      store.insertBatches rows.length 0 connection (batchesOf store.batchSize rows)
    store.insertRows connection table =
      (inserted.1, inserted.2.1,
        fitted.events.map .event
          ++ .event (.info "inserting_rows" [store.collectionField, ("count", .ofNat rows.length)])
            :: .progress 0 rows.length :: inserted.2.2) := by
  intro fitted rows inserted
  rw [insertRows, unbroken]

theorem rows_insertRows
    (unbroken : (fitRows table.textColumns table.namedRows).failure = none) :
    let rows := (fitRows table.textColumns table.namedRows).value
    (store.insertRows connection table).2.2.flatMap Occurrence.rows =
      (store.insertBatches rows.length 0 connection
        (batchesOf store.batchSize rows)).2.2.flatMap Occurrence.rows := by
  intro rows
  rw [insertRows_of_none store connection table unbroken, List.flatMap_append, rows_events,
    List.flatMap_cons, List.flatMap_cons]
  rfl

/-- Whatever fails, the rows of a table are inserted from the first on. -/
theorem front_insertRows :
    (store.insertRows connection table).2.2.flatMap Occurrence.rows <+:
      (fitRows table.textColumns table.namedRows).value := by
  cases broken : (fitRows table.textColumns table.namedRows).failure with
  | some failure =>
      rw [insertRows_of_failure store connection table broken, rows_events]
      exact List.nil_prefix
  | none =>
      rw [rows_insertRows store connection table broken]
      generalize (fitRows table.textColumns table.namedRows).value = rows
      obtain ⟨count, _, _, happened, _⟩ :=
        store.insertBatches_made rows.length (batchesOf store.batchSize rows) 0 connection
      rw [happened, rows_insertions]
      have whole :=
        congrArg List.flatten (List.take_append_drop count (batchesOf store.batchSize rows))
      rw [List.flatten_append, flatten_batchesOf] at whole
      exact ⟨_, whole⟩

end

theorem insertRows_ok {store : VectorStore} {connection : Connection} {table : Table} {count : Nat}
    (ok : (store.insertRows connection table).1 = .ok count) :
    (fitRows table.textColumns table.namedRows).failure = none ∧
      count = (fitRows table.textColumns table.namedRows).value.length ∧
      (store.insertRows connection table).2.2.flatMap Occurrence.rows =
        (fitRows table.textColumns table.namedRows).value := by
  cases broken : (fitRows table.textColumns table.namedRows).failure with
  | some failure =>
      rw [insertRows_of_failure store connection table broken] at ok
      cases ok
  | none =>
      rw [insertRows_of_none store connection table broken] at ok
      obtain ⟨counted, rows⟩ := insertBatches_ok store _ _ ok
      rw [flatten_batchesOf] at counted rows
      exact ⟨rfl, counted.trans (Nat.zero_add _),
        (rows_insertRows store connection table broken).trans rows⟩

theorem rows_connect (store : VectorStore) :
    store.connect.2.2.flatMap Occurrence.rows = [] := by
  unfold connect
  split
  · rfl
  · dsimp only
    split <;> rfl

theorem rows_prepareCollection (store : VectorStore) (connection : Connection) (table : Table) :
    (store.prepareCollection connection table).2.flatMap Occurrence.rows = [] := by
  have asked : (store.probe connection).2.flatMap Occurrence.rows = [] := by
    unfold probe
    dsimp only
    split <;> rfl
  have created : (store.createCollection connection table).2.flatMap Occurrence.rows = [] := by
    unfold createCollection
    split <;> rfl
  unfold prepareCollection
  split
  · rename_i probed
    rw [probed] at asked
    exact asked
  · rename_i probed
    rw [probed] at asked
    dsimp only
    rw [List.flatMap_append, asked]
    rfl
  · rename_i probed
    rw [probed] at asked
    dsimp only
    rw [List.flatMap_append, created, asked]
    rfl

/-- A table that is loaded without a failure is inserted row by row, with its texts cut. -/
theorem indexTable_ok {store : VectorStore} {table : Table} {count : Nat} (even : table.Even)
    (ok : (store.indexTable table).1 = .ok count) :
    count = table.rowCount ∧
      (store.indexTable table).2.2.flatMap Occurrence.rows =
        table.namedRows.map (·.map (cutIn table.textColumns)) := by
  have long := Table.length_namedRows even
  have connected := store.rows_connect
  unfold indexTable at ok ⊢
  cases connects : store.connect with
  | mk answer rest =>
      obtain ⟨after, occurrences⟩ := rest
      rw [connects] at connected
      cases answer with
      | error failure => simp [connects] at ok
      | ok connection =>
          simp only [connects] at ok ⊢
          by_cases none : table.rowCount = 0
          · rw [if_pos none] at ok ⊢
            cases ok
            have nothing : table.namedRows = [] := List.eq_nil_of_length_eq_zero (long.trans none)
            refine ⟨none.symm, ?_⟩
            rw [nothing, List.flatMap_append, connected]
            rfl
          · rw [if_neg none] at ok ⊢
            have prepared := after.rows_prepareCollection connection table
            cases prepares : after.prepareCollection connection table with
            | mk ready more =>
                rw [prepares] at prepared
                cases ready with
                | error failure => simp [prepares] at ok
                | ok ready =>
                    simp only [prepares] at ok ⊢
                    obtain ⟨unbroken, counted, inserted⟩ := insertRows_ok ok
                    have fitted := Table.value_fitRows_namedRows unbroken
                    rw [fitted, List.length_map, long] at counted
                    refine ⟨counted, ?_⟩
                    rw [List.flatMap_append, List.flatMap_append, connected, prepared, inserted, fitted]
                    rfl

end VectorStore

end SourceIndex
