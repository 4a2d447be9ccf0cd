import SourceIndex.Proofs.Dataset.RecordRows

/-! # Gathering records

Records are added one at a time or as they are handed out, which can fail half-way.  Whatever the
order of the calls, the columns hold the records with a text that were delivered (`after_eq`,
`holds_extend`), and a table is made of them exactly if their numbers fit (`gathered_rows`). -/
set_option autoImplicit false
namespace SourceIndex

namespace RecordSupply

/-- The records that are handed out before the end or the failure. -/
def records : RecordSupply → List Record
  | .done => []
  | .fails _ => []
  | .gives record rest => record :: rest.records

def failure? : RecordSupply → Option Failure
  | .done => none
  | .fails failure => some failure
  | .gives _ rest => rest.failure?

/-- What is handed out of a list, before a failure if there is one. -/
def ofList (failure : Option Failure) : List Record → RecordSupply
  | [] => failure.elim .done .fails
  | record :: rest => .gives record (ofList failure rest)

end RecordSupply

namespace RecordColumns

/-- The records in front of a failure are added as if there was none behind them. -/
theorem absorb_eq (supply : RecordSupply) : ∀ columns : RecordColumns,
    columns.absorb supply = (supply.failure?, columns.extend supply.records) := by
  induction supply with
  | done => exact fun _ => rfl
  | fails failure => exact fun _ => rfl
  | gives record rest ih => exact fun columns => ih (columns.append record).2

theorem absorb_ofList (columns : RecordColumns) (failure : Option Failure) (records : List Record) :
    columns.absorb (.ofList failure records) = (failure, columns.extend records) := by
  have same : (RecordSupply.ofList failure records).failure? = failure ∧
      (RecordSupply.ofList failure records).records = records := by
    induction records with
    | nil => cases failure <;> exact ⟨rfl, rfl⟩
    | cons record rest ih => exact ⟨ih.1, congrArg (record :: ·) ih.2⟩
  rw [absorb_eq, same.1, same.2]

end RecordColumns

/-- A stream is gathered as it hands out its records: the failure of a pull is that of the whole. -/
theorem Stream.collect_eq (stream : Stream) :
    stream.collect.1 = match RecordColumns.absorb {} (.ofList stream.drain.2.1 stream.drain.1) with
      | (some failure, _) => .error failure
      | (none, columns) => .ok columns := by
  rw [RecordColumns.absorb_ofList]
  unfold collect
  cases failed : stream.drain.2.1 <;> simp [failed]

/-! ## Calls one after another -/

/-- A call on columns that are being filled. -/
inductive GatherCall where
  | append (record : Record)
  | extend (supply : RecordSupply)
  | toTable

inductive GatherAnswer where
  | added (whether : Bool)
  | absorbed (failure : Option Failure)
  | made (result : Except Failure Table)

/-- The records that a call delivers. -/
def GatherCall.delivered : GatherCall → List Record
  | .append record => [record]
  | .extend supply => supply.records
  | .toTable => []

namespace RecordColumns

/-- What a call answers, and the columns behind it. -/
def answer (columns : RecordColumns) : GatherCall → GatherAnswer × RecordColumns
  | .append record => (columns.append record).map .added id
  | .extend supply => (columns.absorb supply).map .absorbed id
  | .toTable => (.made columns.toTable, columns)

def after (columns : RecordColumns) (calls : List GatherCall) : RecordColumns :=
  calls.foldl (fun columns call => (columns.answer call).2) columns

/-- The columns hold the six fields of so many records, each of which has a text. -/
structure Holds (kept : List Record) (columns : RecordColumns) : Prop where
  filePaths : columns.filePaths = kept.map (·.filePath)
  fileNames : columns.fileNames = kept.map (·.fileName)
  startLines : columns.startLines = kept.map (·.startLine)
  stopLines : columns.stopLines = kept.map (·.stopLine)
  texts : columns.texts.map some = kept.map (·.text)
  sizes : columns.sizes = kept.map (·.size)

variable {kept : List Record} {columns : RecordColumns}

theorem Holds.count (holds : columns.Holds kept) : columns.count = kept.length := by
  simpa [RecordColumns.count] using congrArg List.length holds.texts

theorem Holds.even (holds : columns.Holds kept) : columns.Even where
  filePaths := by rw [holds.count, holds.filePaths, List.length_map]
  fileNames := by rw [holds.count, holds.fileNames, List.length_map]
  startLines := by rw [holds.count, holds.startLines, List.length_map]
  stopLines := by rw [holds.count, holds.stopLines, List.length_map]
  sizes := by rw [holds.count, holds.sizes, List.length_map]

theorem holds_ofTexts {pairs : List (Record × String)}
    (shown : ∀ pair ∈ pairs, pair.1.text = some pair.2) :
    (ofTexts pairs).Holds (pairs.map (·.1)) := by
  constructor <;> simp only [ofTexts, List.map_map]
  · rfl
  · rfl
  · rfl
  · rfl
  · exact List.map_congr_left fun pair among => (shown pair among).symm
  · rfl

/-- The records with a text, taken from those that are given. -/
theorem holds_extend (records : List Record) :
    (extend {} records).Holds (records.filter (·.text.isSome)) := by
  have gathered : extend {} records =
      ofTexts (records.filterMap fun record => record.text.map (record, ·)) := extend_ofTexts records []
  have firsts : (records.filterMap fun record => record.text.map (record, ·)).map (·.1) =
      records.filter (·.text.isSome) := by
    rw [List.map_filterMap, ← List.filterMap_eq_filter]
    congr 1
    funext record
    cases text : record.text <;> simp [text, Option.guard]
  rw [gathered, ← firsts]
  refine holds_ofTexts fun pair among => ?_
  obtain ⟨record, _, shows⟩ := List.mem_filterMap.mp among
  obtain ⟨text, shown, rfl⟩ := Option.map_eq_some_iff.mp shows
  exact shown

/-- One call adds what it delivers, and nothing else. -/
theorem columns_answer (columns : RecordColumns) (call : GatherCall) :
    (columns.answer call).2 = columns.extend call.delivered := by
  cases call with
  | append record => rfl
  | extend supply => exact congrArg Prod.snd (absorb_eq supply columns)
  | toTable => rfl

theorem after_eq (calls : List GatherCall) : ∀ columns : RecordColumns,
    columns.after calls = columns.extend (calls.flatMap GatherCall.delivered) := by
  induction calls with
  | nil => exact fun _ => rfl
  | cons call rest ih =>
      intro columns
      have step : columns.after (call :: rest) = (columns.answer call).2.after rest := rfl
      rw [step, columns_answer, ih, List.flatMap_cons, extend, extend, extend, List.foldl_append]

/-! ## The table of what is gathered -/

theorem fits_of_assemble {schema : List (String × ColumnType)} : ∀ {lists : List (List Value)}
    {assembled : List Column}, assemble schema lists = .ok assembled →
      ∀ pair ∈ schema.zip lists, ∀ v ∈ pair.2, ∃ fitted, pair.1.2.fit v = .ok fitted := by
  induction schema with
  | nil => exact fun _ pair impossible => by cases impossible
  | cons named schema ih =>
      intro lists assembled made
      cases lists with
      | nil => exact fun pair impossible => by cases impossible
      | cons values others =>
          obtain ⟨fitted, more, fits, rest, _⟩ := assemble_cons_ok made
          refine List.forall_mem_cons.mpr ⟨fun v among => ?_, ih rest⟩
          have each := List.mem_map_of_mem (f := named.2.fit) among
          rw [ColumnType.map_of_eachFitted fits] at each
          obtain ⟨kept, _, same⟩ := List.mem_map.mp each
          exact ⟨kept, same.symm⟩

theorem unsigned64_of_fit {n : Int} {fitted : Value}
    (fits : (ColumnType.unsigned .bits64).fit (.integer n) = .ok fitted) : Unsigned64 n := by
  rw [ColumnType.fit] at fits
  split at fits
  · assumption
  · cases fits

/-- A table is made exactly when all numbers are in the range of their columns. -/
theorem toTable_ok_iff (columns : RecordColumns) : (∃ table, columns.toTable = .ok table) ↔
    (∀ n ∈ columns.startLines, Unsigned64 n) ∧ (∀ n ∈ columns.stopLines, Unsigned64 n) ∧
      ∀ n ∈ columns.sizes, Unsigned64 n := by
  refine ⟨?_, fun ⟨starts, stops, sizes⟩ => ⟨_, toTable_of_fits starts stops sizes⟩⟩
  rintro ⟨table, made⟩
  rw [toTable] at made
  cases assembled : assemble chunkSchema columns.values with
  | error failure => simp [assembled] at made
  | ok all =>
      have fits := fits_of_assemble assembled
      simp only [chunkSchema, values, List.zip_cons_cons, List.zip_nil_left, List.forall_mem_cons]
        at fits
      obtain ⟨_, _, starts, stops, _, sizes, _⟩ := fits
      have inside {numbers : List Int} (each : ∀ v ∈ numbers.map Value.integer,
          ∃ fitted, (ColumnType.unsigned .bits64).fit v = .ok fitted) :
          ∀ n ∈ numbers, Unsigned64 n := by
        intro n member
        obtain ⟨fitted, fit⟩ := each _ (List.mem_map_of_mem member)
        exact unsigned64_of_fit fit
      exact ⟨inside starts, inside stops, inside sizes⟩

theorem Holds.toTable_ok_iff (holds : columns.Holds kept) :
    (∃ table, columns.toTable = .ok table) ↔ ∀ record ∈ kept, record.Fits := by
  rw [RecordColumns.toTable_ok_iff, holds.startLines, holds.stopLines, holds.sizes,
    List.forall_mem_map, List.forall_mem_map, List.forall_mem_map]
  exact ⟨fun ⟨starts, stops, sizes⟩ record among =>
      ⟨starts record among, stops record among, sizes record among⟩,
    fun fits => ⟨fun record among => (fits record among).startLine,
      fun record among => (fits record among).stopLine, fun record among => (fits record among).size⟩⟩

theorem exists_of_assemble_error {schema : List (String × ColumnType)} {failure : Failure} :
    ∀ {lists : List (List Value)}, assemble schema lists = .error failure →
      ∃ named ∈ schema, ∃ v, named.2.fit v = .error failure := by
  induction schema with
  | nil => exact fun refused => by cases refused
  | cons named schema ih =>
      intro lists refused
      cases lists with
      | nil => cases refused
      | cons values others =>
          rcases assemble_cons_error refused with fails | fails
          · obtain ⟨v, _, unfit⟩ := ColumnType.exists_of_eachFitted_error fails
            exact ⟨named, List.mem_cons_self, v, unfit⟩
          · obtain ⟨late, among, unfit⟩ := ih fails
            exact ⟨late, List.mem_cons_of_mem _ among, unfit⟩

theorem assemble_chunkSchema_error {lists : List (List Value)} {failure : Failure}
    (refused : assemble chunkSchema lists = .error failure) : failure = .badCell := by
  obtain ⟨named, among, v, fails⟩ := exists_of_assemble_error refused
  simp only [chunkSchema, List.mem_cons, List.not_mem_nil, or_false] at among
  obtain rfl | rfl | rfl | rfl | rfl | rfl := among
  all_goals first
    | exact ColumnType.text_fit_error fails
    | exact ColumnType.unsigned_fit_error fails

theorem toTable_error {failure : Failure} (refused : columns.toTable = .error failure) :
    failure = .cannotAssemble := by
  unfold toTable at refused
  split at refused
  · next assembled =>
      cases refused
      rw [assemble_chunkSchema_error assembled]
      rfl
  · cases refused

/-- Whatever calls are made on empty columns, each list has one entry for each of the records with a
text that were delivered, those in front of a failure included, and the entries at one place are the
fields of one record.  Making a table leaves the columns as they are.  It gives a row for each of
these records, in order, when all their numbers are in the range of 64 bits without a sign, and is
refused otherwise. -/
theorem gathered_rows (calls : List GatherCall) :
    let delivered := calls.flatMap GatherCall.delivered
    let kept := delivered.filter (·.text.isSome)
    let columns := RecordColumns.after {} calls
    columns.Even ∧ columns.Holds kept ∧
      ∃ result, columns.answer .toTable = (.made result, columns) ∧
        match result with
        | .ok table =>
          (∀ record ∈ kept, record.Fits) ∧
            table.columns.map (fun column => (column.name, column.type)) = chunkSchema ∧
            table.rowCount = kept.length ∧ table.namedRows = kept.filterMap Record.row?
        | .error failure => failure.kind = .dataset ∧ ¬ ∀ record ∈ kept, record.Fits := by
  intro delivered kept columns
  have same : columns = extend {} delivered := after_eq calls {}
  have holds : columns.Holds kept := same ▸ holds_extend delivered
  refine ⟨holds.even, holds, columns.toTable, rfl, ?_⟩
  cases made : columns.toTable with
  | error failure =>
      refine ⟨by rw [toTable_error made]; rfl, fun fits => ?_⟩
      obtain ⟨table, ok⟩ := holds.toTable_ok_iff.mpr fits
      rw [made] at ok
      cases ok
  | ok table =>
      have rows : table.namedRows = delivered.filterMap Record.row? :=
        namedRows_of_tableOf ((congrArg toTable same).symm.trans made)
      refine ⟨holds.toTable_ok_iff.mp ⟨table, made⟩, ?_, ?_, ?_⟩
      · rw [eq_table_of_toTable made]
        rfl
      · rw [eq_table_of_toTable made, holds.even.rowCount_table, holds.count]
      · rw [rows, List.filterMap_filter]
        congr 1
        funext record
        cases text : record.text <;> simp [Record.row?, text]

end RecordColumns

end SourceIndex
