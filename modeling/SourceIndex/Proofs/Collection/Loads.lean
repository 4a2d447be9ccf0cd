import SourceIndex.Proofs.Collection.Inserts

/-! # Loading a table

A call that loads a table makes the collection if it is missing and the table can be accepted, and then
inserts the rows in batches, up to the first that fails (`Loading`).  Rows that cannot be cut are not
inserted. -/
set_option autoImplicit false
namespace SourceIndex

/-! ## What the server keeps -/

def Occurrence.change? : Occurrence → Option ServerCall
  | .call (.create collection schema indexed metric) => some (.create collection schema indexed metric)
  | .call (.insert collection rows) => some (.insert collection rows)
  | _ => none

def Occurrence.report? : Occurrence → Option (Nat × Nat)
  | .progress inserted total => some (inserted, total)
  | _ => none

def ServerCall.batch? : ServerCall → Option (List NamedRow)
  | .insert _ rows => some rows
  | _ => none

/-- What a call makes of the rows in the collection, which is missing where there are none: a new
collection is empty, and rows are appended. -/
def ServerCall.keep (kept : Option (List NamedRow)) : ServerCall → Option (List NamedRow)
  | .create .. => some []
  | .insert _ rows => kept.map (· ++ rows)
  | _ => kept

def keptBehind (kept : Option (List NamedRow)) (changes : List ServerCall) : Option (List NamedRow) :=
  changes.foldl ServerCall.keep kept

theorem keptBehind_append (kept : Option (List NamedRow)) (front back : List ServerCall) :
    keptBehind kept (front ++ back) = keptBehind (keptBehind kept front) back :=
  List.foldl_append

theorem keptBehind_inserts (collection : String) (batches : List (List NamedRow)) :
    ∀ kept, keptBehind kept (batches.map (.insert collection)) = kept.map (· ++ batches.flatten) := by
  induction batches with
  | nil =>
      intro kept
      cases kept <;> simp [keptBehind]
  | cons batch rest ih =>
      intro kept
      refine (ih _).trans ?_
      cases kept <;> simp [ServerCall.keep]

structure Quiet (occurrences : List Occurrence) : Prop where
  unchanged : occurrences.filterMap Occurrence.change? = []
  unreported : occurrences.filterMap Occurrence.report? = []

theorem Quiet.append {front back : List Occurrence} (first : Quiet front) (second : Quiet back) :
    Quiet (front ++ back) where
  unchanged := by rw [List.filterMap_append, first.unchanged, second.unchanged, List.nil_append]
  unreported := by rw [List.filterMap_append, first.unreported, second.unreported, List.nil_append]

theorem Quiet.events (events : List Event) : Quiet (events.map .event) where
  unchanged := by simp [List.filterMap_map, Occurrence.change?]
  unreported := by simp [List.filterMap_map, Occurrence.report?]

theorem batch?_inserts (collection : String) (batches : List (List NamedRow)) :
    (batches.map (ServerCall.insert collection)).filterMap ServerCall.batch? = batches := by
  rw [List.filterMap_map]
  exact List.filterMap_some

section
variable {kind : FailureKind} {text : String}

-- a table is refused without asking the server
theorem Column.field_refusal (names : List String) (column : Column) :
    column.field names ≠ .error (.foreign kind text) := by
  unfold field
  grind

theorem fieldsOf_refusal (names : List String) (columns : List Column) :
    fieldsOf names columns ≠ .error (.foreign kind text) := by
  induction columns with
  | nil => simp [fieldsOf]
  | cons column rest ih =>
      have own := @Column.field_refusal kind text names column
      grind [fieldsOf]

theorem Table.collectionSchema_refusal (table : Table) :
    table.collectionSchema ≠ .error (.foreign kind text) := by
  have fields := @fieldsOf_refusal kind text table.columnNames table.columns
  grind [collectionSchema]

end

/-! ## One call -/

/-- A call that loads a table: what it gave and what happened in it. -/
structure LoadCall where
  table : Table
  result : Except Failure Nat
  occurrences : List Occurrence

namespace LoadCall

variable (call : LoadCall)

def changes : List ServerCall := call.occurrences.filterMap Occurrence.change?

def batches : List (List NamedRow) := call.changes.filterMap ServerCall.batch?

def rows : List NamedRow := call.batches.flatten

def reports : List (Nat × Nat) := call.occurrences.filterMap Occurrence.report?

/-- The number of inserts that were tried: those that were made, and the one that failed. -/
def tries : Nat :=
  call.batches.length +
    match call.result with
    | .error (.foreign ..) => 1
    | _ => 0

end LoadCall

def reportsOf (size total count : Nat) : List (Nat × Nat) :=
  (List.range (count + 1)).map fun i => (min (i * size) total, total)

/-- How a call ends, where the collection was there before it or not and so many inserts had been
tried. -/
inductive LoadCall.Ends (server : Server) (size : Nat) (there : Bool) (tried : Nat)
    (call : LoadCall) : Prop where
  | empty (none : call.table.rowCount = 0) (result : call.result = .ok 0)
      (unchanged : call.changes = []) (reports : call.reports = [(0, 0)])
  | refused {failure : Failure} (some : call.table.rowCount ≠ 0) (absent : there = false)
      (refusal : call.table.collectionSchema = .error failure) (result : call.result = .error failure)
      (unchanged : call.changes = []) (reports : call.reports = [])
  /-- Under the name of a column of texts stands what cannot be cut. -/
  | uncut (some : call.table.rowCount ≠ 0)
      (accepted : there = true ∨ ∃ schema, call.table.collectionSchema = .ok schema)
      (other : ¬call.table.Cuttable) (result : call.result = .error .badAttribute)
      (uninserted : call.batches = []) (reports : call.reports = [])
  | loaded {count : Nat} (some : call.table.rowCount ≠ 0)
      (accepted : there = true ∨ ∃ schema, call.table.collectionSchema = .ok schema)
      (cut : call.table.Cuttable) (batches : ∀ i, i < count ↔ i * size < call.table.rowCount)
      (held : ∀ i < count, server.insertFails (tried + i + 1) = false)
      (result : call.result = .ok call.table.rowCount)
      (inserted : call.rows = call.table.keptRows)
      (reports : call.reports = reportsOf size call.table.rowCount count)
  | broken {count : Nat} (some : call.table.rowCount ≠ 0)
      (accepted : there = true ∨ ∃ schema, call.table.collectionSchema = .ok schema)
      (cut : call.table.Cuttable) (more : count * size < call.table.rowCount)
      (held : ∀ i < count, server.insertFails (tried + i + 1) = false)
      (fails : server.insertFails (tried + count + 1) = true)
      (result : call.result = .error (.foreign .runtime "insert failed"))
      (inserted : call.rows = call.table.keptRows.take (count * size))
      (reports : call.reports = reportsOf size call.table.rowCount count)

theorem reportsOf_increase {size total count : Nat} (positive : 0 < size)
    (more : ∀ i < count, i * size < total) :
    ((reportsOf size total count).map Prod.fst).Pairwise (· < ·) := by
  rw [reportsOf, List.map_map, List.pairwise_map]
  refine List.pairwise_lt_range.imp_of_mem ?_
  intro i j _ late less
  have inside : i < count := by
    rw [List.mem_range] at late
    omega
  have earlier := more i inside
  have step := Nat.mul_lt_mul_of_pos_right less positive
  simp only [Function.comp_apply]
  omega

theorem LoadCall.Ends.reports_increase {server : Server} {size tried : Nat} {there : Bool}
    {call : LoadCall} (ends : call.Ends server size there tried) (positive : 0 < size) :
    (call.reports.map Prod.fst).Pairwise (· < ·) := by
  cases ends with
  | empty _ _ _ reports => simp [reports]
  | refused _ _ _ _ _ reports => simp [reports]
  | uncut _ _ _ _ _ reports => simp [reports]
  | loaded _ _ _ batches _ _ _ reports =>
      rw [reports]
      exact reportsOf_increase positive fun i early => (batches i).mp early
  | broken _ _ _ more _ _ _ _ reports =>
      rw [reports]
      refine reportsOf_increase positive fun i early => ?_
      exact Nat.lt_of_le_of_lt (Nat.mul_le_mul_right size (Nat.le_of_lt early)) more

namespace VectorStore

theorem change?_insertions (collection : String) (total : Nat) (batches : List (List NamedRow)) :
    ∀ inserted, (insertions collection total inserted batches).filterMap Occurrence.change? =
      batches.map (.insert collection) := by
  induction batches with
  | nil => exact fun _ => rfl
  | cons batch rest ih => exact fun inserted => congrArg (_ :: ·) (ih _)

theorem report?_insertions (collection : String) (total : Nat) (batches : List (List NamedRow)) :
    ∀ inserted, (insertions collection total inserted batches).filterMap Occurrence.report? =
      (List.range batches.length).map fun i =>
        (inserted + (batches.take (i + 1)).flatten.length, total) := by
  induction batches with
  | nil => exact fun _ => rfl
  | cons batch rest ih =>
      intro inserted
      rw [List.length_cons, List.range_succ_eq_map, List.map_cons, List.map_map]
      refine List.cons_eq_cons.mpr ⟨?_, (ih _).trans (List.map_congr_left ?_)⟩
      · simp
      · intro i _
        simp [Nat.add_assoc]

def there (store : VectorStore) : Bool :=
  match store.connection with
  | some connection => connection.hasCollection
  | none => store.server.hasCollection

def tried (store : VectorStore) : Nat :=
  match store.connection with
  | some connection => connection.inserts
  | none => 0

def joined (store : VectorStore) (connection : Connection) : VectorStore :=
  { store with connection := some connection }

/-- The store once it is connected. -/
def linked (store : VectorStore) : VectorStore := store.joined ⟨store.there, store.tried⟩

/-- The call that makes the collection from a table, if it can be made from it. -/
def creation? (store : VectorStore) (table : Table) : Option ServerCall :=
  if table.rowCount = 0 then none
  else
    match table.collectionSchema with
    | .error _ => none
    | .ok schema => some (.create store.collection schema table.vectorColumns store.metric)

/-- The call that makes the collection from the first of several tables that it can be made from,
unless the collection is there. -/
def creation (store : VectorStore) (tables : List Table) : Option ServerCall :=
  if store.there then none else tables.findSome? store.creation?

@[simp] theorem there_joined (store : VectorStore) (connection : Connection) :
    (store.joined connection).there = connection.hasCollection := rfl

@[simp] theorem tried_joined (store : VectorStore) (connection : Connection) :
    (store.joined connection).tried = connection.inserts := rfl

section
variable {store : VectorStore} {tables : List Table} {made : ServerCall}

theorem creation_of_there (here : store.there = true) : store.creation tables = none := by
  rw [creation, if_pos here]

theorem creation_some (makes : store.creation tables = some made) :
    store.there = false ∧
      ∃ schema indexed, made = .create store.collection schema indexed store.metric := by
  unfold creation at makes
  split at makes
  · cases makes
  · rename_i absent
    obtain ⟨table, _, creates⟩ := List.exists_of_findSome?_eq_some makes
    refine ⟨by simpa using absent, ?_⟩
    unfold creation? at creates
    grind

theorem change?_creation (store : VectorStore) (tables : List Table) :
    ((store.creation tables).toList.map Occurrence.call).filterMap Occurrence.change? =
      (store.creation tables).toList := by
  cases makes : store.creation tables with
  | none => rfl
  | some made =>
      obtain ⟨_, schema, indexed, rfl⟩ := creation_some makes
      rfl

theorem report?_creation (store : VectorStore) (tables : List Table) :
    ((store.creation tables).toList.map Occurrence.call).filterMap Occurrence.report? = [] := by
  cases store.creation tables <;> rfl

theorem batch?_creation (store : VectorStore) (tables : List Table) :
    (store.creation tables).toList.filterMap ServerCall.batch? = [] := by
  cases makes : store.creation tables with
  | none => rfl
  | some made =>
      obtain ⟨_, schema, indexed, rfl⟩ := creation_some makes
      rfl

theorem keptBehind_creation {kept : Option (List NamedRow)} (held : kept.isSome = store.there)
    (collection : String) (batches : List (List NamedRow)) :
    keptBehind kept ((store.creation tables).toList ++ batches.map (.insert collection)) =
      if store.there || (store.creation tables).isSome then some (kept.getD [] ++ batches.flatten)
      else none := by
  rw [keptBehind_append, keptBehind_inserts]
  cases makes : store.creation tables with
  | none => cases kept <;> simp_all [keptBehind]
  | some made =>
      obtain ⟨absent, schema, indexed, rfl⟩ := creation_some makes
      cases kept <;> simp_all [keptBehind, ServerCall.keep]

end

theorem connect_quiet {store : VectorStore} (reachable : store.server.reachable = true) :
    ∃ quiet, Quiet quiet ∧
      store.connect = (.ok ⟨store.there, store.tried⟩, store.linked, quiet) := by
  cases connection : store.connection with
  | none =>
      refine ⟨_, ⟨?_, ?_⟩, by simp [connect, connection, reachable, linked, joined, there, tried]; rfl⟩
      all_goals rfl
  | some connection =>
      refine ⟨[], ⟨rfl, rfl⟩, ?_⟩
      cases store
      simp_all [connect, linked, joined, there, tried]

section
variable (store : VectorStore) (connection : Connection) (table : Table)

theorem probe_truthful (truthful : store.server.probe = .truthful) :
    store.probe connection =
      (.ok connection.hasCollection, [.call (.probe store.collection)]) := by
  simp [probe, truthful]

theorem prepareCollection_there (truthful : store.server.probe = .truthful)
    (here : connection.hasCollection = true) :
    ∃ quiet, Quiet quiet ∧ store.prepareCollection connection table = (.ok connection, quiet) := by
  refine ⟨_, ⟨?_, ?_⟩, by rw [prepareCollection, probe_truthful _ _ truthful, here]⟩
  all_goals rfl

theorem prepareCollection_refused {failure : Failure} (truthful : store.server.probe = .truthful)
    (absent : connection.hasCollection = false)
    (refusal : table.collectionSchema = .error failure) :
    store.prepareCollection connection table =
      (.error failure, [.call (.probe store.collection)]) := by
  simp [prepareCollection, probe_truthful _ _ truthful, absent, createCollection, refusal]

theorem prepareCollection_made {schema : CollectionSchema}
    (truthful : store.server.probe = .truthful) (absent : connection.hasCollection = false)
    (accepted : table.collectionSchema = .ok schema) :
    ∃ quiet, Quiet quiet ∧
      store.prepareCollection connection table =
        (.ok { connection with hasCollection := true },
          quiet ++ [.call (.create store.collection schema table.vectorColumns store.metric)]) := by
  refine ⟨[.call (.probe store.collection),
    .event (.info "creating_milvus_collection"
      [store.collectionField, ("fields", .list (table.columnNames.map .text))])], ⟨rfl, rfl⟩, ?_⟩
  rw [prepareCollection, probe_truthful _ _ truthful, absent]
  simp only [createCollection, accepted]
  rfl

end

section
variable (store : VectorStore) (connection : Connection) {table : Table} (even : table.Even)
include even

/-- Rows that cannot be cut are not inserted. -/
theorem insertRows_uncut (other : ¬table.Cuttable) :
    ∃ quiet, Quiet quiet ∧
      store.insertRows connection table = (.error .badAttribute, connection, quiet) := by
  have ends := Table.cutEnds_namedRows even
  cases broken : (fitRows table.textColumns table.namedRows).failure with
  | none => exact absurd (ends.eq_none_iff.mp broken) other
  | some failure =>
      rw [broken] at ends
      cases ends with
      | broken => exact ⟨_, .events _, insertRows_of_failure store connection table broken⟩

/-- The rows are inserted in full batches, up to the first that fails, and each batch is reported. -/
theorem insertRows_made (positive : 0 < store.batchSize) (cut : table.Cuttable) :
    ∃ count ≤ (batchesOf store.batchSize table.keptRows).length,
      (∀ i < count, store.server.insertFails (connection.inserts + i + 1) = false) ∧
      (store.insertRows connection table).2.2.filterMap Occurrence.change? =
        ((batchesOf store.batchSize table.keptRows).take count).map (.insert store.collection) ∧
      (store.insertRows connection table).2.2.filterMap Occurrence.report? =
        reportsOf store.batchSize table.rowCount count ∧
      InsertsEnd store.server connection count (batchesOf store.batchSize table.keptRows).length
        table.rowCount (store.insertRows connection table).1
        (store.insertRows connection table).2.1 := by
  have unbroken := (Table.cutEnds_namedRows even).eq_none_iff.mpr cut
  have fitted := (Table.value_fitRows_namedRows unbroken).trans (Table.keptRows_eq even).symm
  have inserts := store.insertRows_of_none connection table unbroken
  dsimp only at inserts
  rw [fitted, table.length_keptRows] at inserts
  obtain ⟨count, within, held, happened, ending⟩ :=
    store.insertBatches_made table.rowCount (batchesOf store.batchSize table.keptRows) 0 connection
  have told := Quiet.events (fitRows table.textColumns table.namedRows).events
  rw [inserts, happened]
  refine ⟨count, within, held, ?_, ?_, ?_⟩
  · rw [List.filterMap_append, told.unchanged]
    exact change?_insertions ..
  · rw [List.filterMap_append, told.unreported, reportsOf, List.range_succ_eq_map, List.map_cons,
      List.map_map]
    refine List.cons_eq_cons.mpr ⟨by simp, (report?_insertions ..).trans ?_⟩
    rw [List.length_take, Nat.min_eq_left within]
    refine List.map_congr_left ?_
    intro i early
    have inside : i + 1 ≤ count := List.mem_range.mp early
    rw [List.take_take, Nat.min_eq_left inside, flatten_take_batchesOf positive, List.length_take,
      Nat.zero_add, table.length_keptRows]
    rfl
  · rw [flatten_batchesOf, Nat.zero_add, table.length_keptRows] at ending
    exact ending

end

section
variable {store : VectorStore} {table : Table}

theorem indexTable_empty (reachable : store.server.reachable = true) (none : table.rowCount = 0) :
    ∃ quiet, Quiet quiet ∧
      store.indexTable table = (.ok 0, store.linked, quiet ++ [.progress 0 0]) := by
  obtain ⟨quiet, still, connects⟩ := connect_quiet reachable
  refine ⟨quiet ++ [.event (.info "no_rows_to_index" [store.collectionField])],
    still.append ⟨rfl, rfl⟩, ?_⟩
  simp [indexTable, connects, none, linked, collectionField]

theorem indexTable_refused {failure : Failure} (reachable : store.server.reachable = true)
    (truthful : store.server.probe = .truthful) (some : table.rowCount ≠ 0)
    (absent : store.there = false) (refusal : table.collectionSchema = .error failure) :
    ∃ quiet, Quiet quiet ∧ store.indexTable table = (.error failure, store.linked, quiet) := by
  obtain ⟨quiet, still, connects⟩ := connect_quiet reachable
  refine ⟨quiet ++ [.call (.probe store.collection)], still.append ⟨rfl, rfl⟩, ?_⟩
  have refused :=
    store.linked.prepareCollection_refused ⟨store.there, store.tried⟩ table truthful absent refusal
  simp only [indexTable, connects, some, if_false, refused]
  rfl

theorem indexTable_inserts (reachable : store.server.reachable = true)
    (truthful : store.server.probe = .truthful) (some : table.rowCount ≠ 0)
    (accepted : store.there = true ∨ ∃ schema, table.collectionSchema = .ok schema) :
    ∃ quiet, Quiet quiet ∧
      store.indexTable table =
        ((store.linked.insertRows ⟨true, store.tried⟩ table).1,
          store.joined (store.linked.insertRows ⟨true, store.tried⟩ table).2.1,
          quiet ++ ((store.creation [table]).toList.map .call ++
            (store.linked.insertRows ⟨true, store.tried⟩ table).2.2)) := by
  obtain ⟨quiet, still, connects⟩ := connect_quiet reachable
  cases here : store.there with
  | true =>
      obtain ⟨more, calm, prepares⟩ :=
        store.linked.prepareCollection_there ⟨store.there, store.tried⟩ table truthful here
      refine ⟨quiet ++ more, still.append calm, ?_⟩
      rw [here] at connects prepares
      simp only [indexTable, connects, some, if_false, prepares, creation, here, if_true]
      rfl
  | false =>
      obtain ⟨schema, fits⟩ := accepted.resolve_left (by simp [here])
      obtain ⟨more, calm, prepares⟩ :=
        store.linked.prepareCollection_made ⟨store.there, store.tried⟩ table truthful here fits
      refine ⟨quiet ++ more, still.append calm, ?_⟩
      rw [here] at connects prepares
      simp only [indexTable, connects, some, if_false, prepares, creation, here, Bool.false_eq_true,
        List.findSome?_cons, creation?, fits, Option.toList_some, List.map_cons, List.map_nil,
        List.append_assoc]
      rfl

def load (store : VectorStore) (table : Table) : LoadCall :=
  ⟨table, (store.indexTable table).1, (store.indexTable table).2.2⟩

/-- What a call does: how it ends, what it changes and how it leaves the store. -/
structure Loading (store : VectorStore) (table : Table) : Prop where
  ends : (store.load table).Ends store.server store.batchSize store.there store.tried
  changes : (store.load table).changes =
    (store.creation [table]).toList ++ (store.load table).batches.map (.insert store.collection)
  after : (store.indexTable table).2.1 = store.joined
    ⟨store.there || (store.creation [table]).isSome, store.tried + (store.load table).tries⟩

theorem loading_empty (reachable : store.server.reachable = true) (none : table.rowCount = 0) :
    Loading store table := by
  obtain ⟨quiet, still, loads⟩ := indexTable_empty reachable none
  have unchanged : (store.load table).changes = [] := by
    simp [load, LoadCall.changes, loads, still.unchanged, Occurrence.change?]
  have batches : (store.load table).batches = [] := by rw [LoadCall.batches, unchanged]; rfl
  have uncreated : store.creation [table] = .none := by simp [creation, creation?, none]
  have untried : (store.load table).tries = 0 := by
    rw [LoadCall.tries, batches, load, loads]
    rfl
  constructor
  · refine .empty none ?_ unchanged ?_
    · rw [load, loads]
    · simp [load, LoadCall.reports, loads, still.unreported, Occurrence.report?]
  · simp [unchanged, batches, uncreated]
  · simp [untried, loads, uncreated, linked]

theorem loading_refused {failure : Failure} (reachable : store.server.reachable = true)
    (truthful : store.server.probe = .truthful) (some : table.rowCount ≠ 0)
    (absent : store.there = false) (refusal : table.collectionSchema = .error failure) :
    Loading store table := by
  obtain ⟨quiet, still, loads⟩ := indexTable_refused reachable truthful some absent refusal
  have unchanged : (store.load table).changes = [] := by
    rw [load, LoadCall.changes, loads, still.unchanged]
  have batches : (store.load table).batches = [] := by rw [LoadCall.batches, unchanged]; rfl
  have uncreated : store.creation [table] = none := by simp [creation, creation?, refusal]
  have untried : (store.load table).tries = 0 := by
    rw [LoadCall.tries, batches, load, loads]
    cases failure with
    | foreign kind text => exact absurd refusal table.collectionSchema_refusal
    | _ => rfl
  constructor
  · refine .refused some absent refusal ?_ unchanged ?_
    · rw [load, loads]
    · rw [load, LoadCall.reports, loads, still.unreported]
  · simp [unchanged, batches, uncreated]
  · simp [untried, loads, uncreated, linked]

section
variable (reachable : store.server.reachable = true) (truthful : store.server.probe = .truthful)
  (even : table.Even) (some : table.rowCount ≠ 0)
  (accepted : store.there = true ∨ ∃ schema, table.collectionSchema = .ok schema)
include some accepted

theorem there_behind : (store.there || (store.creation [table]).isSome) = true := by
  rcases accepted with here | ⟨schema, fits⟩
  · simp [here]
  · cases here : store.there <;> simp [creation, creation?, here, some, fits]

include reachable truthful even

theorem loading_uncut (other : ¬table.Cuttable) : Loading store table := by
  obtain ⟨quiet, still, loads⟩ := indexTable_inserts reachable truthful some accepted
  obtain ⟨told, calm, inserts⟩ := store.linked.insertRows_uncut ⟨true, store.tried⟩ even other
  rw [inserts] at loads
  have changes : (store.load table).changes = (store.creation [table]).toList := by
    rw [load, LoadCall.changes, loads, List.filterMap_append, still.unchanged, List.filterMap_append,
      calm.unchanged, change?_creation, List.append_nil, List.nil_append]
  have batches : (store.load table).batches = [] := by
    rw [LoadCall.batches, changes, batch?_creation]
  have untried : (store.load table).tries = 0 := by
    rw [LoadCall.tries, batches, load, loads]
    rfl
  constructor
  · refine .uncut some accepted other ?_ batches ?_
    · rw [load, loads]
    · rw [load, LoadCall.reports, loads, List.filterMap_append, still.unreported,
        List.filterMap_append, calm.unreported, report?_creation]
      rfl
  · rw [changes, batches, List.map_nil, List.append_nil]
  · rw [loads, there_behind some accepted, untried, Nat.add_zero]

theorem loading_inserts (positive : 0 < store.batchSize) (cut : table.Cuttable) :
    Loading store table := by
  obtain ⟨quiet, still, loads⟩ := indexTable_inserts reachable truthful some accepted
  obtain ⟨count, within, held, changed, reported, ending⟩ :=
    store.linked.insertRows_made ⟨true, store.tried⟩ even positive cut
  have batched : ∀ i, i < (batchesOf store.linked.batchSize table.keptRows).length ↔
      i * store.batchSize < table.rowCount := by
    intro i
    rw [← table.length_keptRows]
    exact lt_length_batchesOf positive table.keptRows i
  have changes : (store.load table).changes = (store.creation [table]).toList ++
      ((batchesOf store.linked.batchSize table.keptRows).take count).map
        (.insert store.collection) := by
    rw [load, LoadCall.changes, loads, List.filterMap_append, still.unchanged, List.filterMap_append,
      changed, change?_creation]
    rfl
  have batches : (store.load table).batches =
      (batchesOf store.linked.batchSize table.keptRows).take count := by
    rw [LoadCall.batches, changes, List.filterMap_append, batch?_creation, batch?_inserts]
    rfl
  have reports : (store.load table).reports = reportsOf store.batchSize table.rowCount count := by
    rw [load, LoadCall.reports, loads, List.filterMap_append, still.unreported,
      List.filterMap_append, report?_creation, reported]
    rfl
  have rows : (store.load table).rows = table.keptRows.take (count * store.batchSize) := by
    rw [LoadCall.rows, batches]
    exact flatten_take_batchesOf positive ..
  have there := there_behind some accepted
  cases ending with
  | all whole given last =>
      refine ⟨.loaded some accepted cut ?_ held ?_ ?_ reports, ?_, ?_⟩
      · rw [whole]
        exact batched
      · rw [load, loads, given]
      · rw [LoadCall.rows, batches, whole, List.take_length, flatten_batchesOf]
        rfl
      · rw [changes, batches]
      · rw [loads, there, last, LoadCall.tries, batches, load, loads, given, whole, List.take_length]
        rfl
  | broken more fails given last =>
      refine ⟨.broken some accepted cut ((batched count).mp more) held fails ?_ rows reports, ?_, ?_⟩
      · rw [load, loads, given]
      · rw [changes, batches]
      · rw [loads, there, last, LoadCall.tries, batches, load, loads, given, List.length_take,
          Nat.min_eq_left within]

theorem loading_accepted (positive : 0 < store.batchSize) : Loading store table := by
  by_cases cut : table.Cuttable
  · exact loading_inserts reachable truthful even some accepted positive cut
  · exact loading_uncut reachable truthful even some accepted cut

end

theorem loading (reachable : store.server.reachable = true)
    (truthful : store.server.probe = .truthful) (positive : 0 < store.batchSize)
    (even : table.Even) : Loading store table := by
  by_cases none : table.rowCount = 0
  · exact loading_empty reachable none
  · cases fits : table.collectionSchema with
    | ok schema => exact loading_accepted reachable truthful even none (.inr ⟨schema, fits⟩) positive
    | error failure =>
        cases here : store.there with
        | true => exact loading_accepted reachable truthful even none (.inl here) positive
        | false => exact loading_refused reachable truthful none here fits

/-- Without a collection there is nothing to insert into. -/
theorem Loading.batches_eq_nil (step : Loading store table) (absent : store.there = false)
    (unmade : store.creation [table] = none) : (store.load table).batches = [] := by
  have made {schema : CollectionSchema} (some : table.rowCount ≠ 0)
      (fits : table.collectionSchema = .ok schema) : False := by
    simp [creation, creation?, absent, some, fits] at unmade
  cases step.ends with
  | empty _ _ unchanged _ => rw [LoadCall.batches, unchanged]; rfl
  | refused _ _ _ _ unchanged _ => rw [LoadCall.batches, unchanged]; rfl
  | uncut _ _ _ _ uninserted _ => exact uninserted
  | loaded some accepted =>
      rcases accepted with here | ⟨schema, fits⟩
      · simp [here] at absent
      · exact (made some fits).elim
  | broken some accepted =>
      rcases accepted with here | ⟨schema, fits⟩
      · simp [here] at absent
      · exact (made some fits).elim

end

end VectorStore

end SourceIndex
