import Mathlib.Data.List.Forall2
import Mathlib.Data.List.Nodup
import SourceIndex.Proofs.Collection.Loads

/-! # Which tables a collection is made from

A collection is made from a table exactly if each of its columns can be kept, one of them holds vectors
and none takes the name of the primary key.  It then has a field for each column: the fields of vectors
are those that are indexed, and the fields of texts those whose texts are cut.  Any other table is
refused for the first thing that is wrong with it (`collectionSchema_made_or_refused`). -/
set_option autoImplicit false
namespace SourceIndex

/-! ## One column -/

/-- A type of lists of floating-point values, and whether it tells how long they are. -/
inductive ColumnType.Vectors : ColumnType → Bool → Prop where
  | fixed (length : Nat) (items : ItemName) (precision : Precision) :
      Vectors (.list (.fixed length) items (.float precision)) true
  | short (items : ItemName) (precision : Precision) :
      Vectors (.list .short items (.float precision)) false
  | long (items : ItemName) (precision : Precision) :
      Vectors (.list .long items (.float precision)) false

/-- The types that a collection has fields for. -/
inductive ColumnType.Storable : ColumnType → Prop where
  | text : Storable .text
  | longText : Storable .longText
  | bool : Storable .bool
  | signed (width : IntegerWidth) : Storable (.signed width)
  | unsigned (width : IntegerWidth) : Storable (.unsigned width)
  | float (precision : Precision) : Storable (.float precision)
  | vectors {type : ColumnType} {told : Bool} (vectors : type.Vectors told) : Storable type

/-- A list that is there and not empty. -/
def Value.Filled (v : Value) : Prop := ∃ first rest, v = .list (first :: rest)

/-- The kind of field that a type and the values of a column get. -/
inductive FieldType.Keeps : FieldType → ColumnType → List Value → Prop where
  | text (values : List Value) : Keeps (.text 65535) .text values
  | longText (values : List Value) : Keeps (.text 65535) .longText values
  | bool (values : List Value) : Keeps .bool .bool values
  | signed (width : IntegerWidth) (values : List Value) : Keeps .integer (.signed width) values
  | unsigned (width : IntegerWidth) (values : List Value) : Keeps .integer (.unsigned width) values
  | float (precision : Precision) (values : List Value) : Keeps .real (.float precision) values
  | fixed (length : Nat) (items : ItemName) (precision : Precision) (values : List Value) :
      Keeps (.vector length) (.list (.fixed length) items (.float precision)) values
  /-- Where the type does not tell how long vectors are, the first that is not empty does. -/
  | filled {type : ColumnType} (vectors : type.Vectors false) {front back rest : List Value}
      {first : Value} (before : ∀ v ∈ front, ¬v.Filled) :
      Keeps (.vector (rest.length + 1)) type (front ++ .list (first :: rest) :: back)

/-- A column is kept in a field of its own name. -/
structure Column.KeptIn (column : Column) (field : Field) : Prop where
  name : field.name = column.name
  plain : field.isPrimary = false
  kind : field.type.Keeps column.type column.values

/-- The column is the only one with its name, if it holds vectors. -/
def Column.Apart (names : List String) (column : Column) : Prop :=
  ∀ told, column.type.Vectors told → names.count column.name = 1

/-- What keeps a column of a table with these names out of a collection. -/
inductive Column.Unkept (names : List String) (column : Column) : Failure → Prop where
  | unsupported (other : ¬column.type.Storable) :
      Unkept names column (.unsupportedColumn column.name column.type.name)
  | ambiguous (shared : ¬column.Apart names) : Unkept names column (.ambiguousColumn column.name)
  | empty (vectors : column.type.Vectors false) (apart : column.Apart names)
      (none : ∀ v ∈ column.values, ¬v.Filled) : Unkept names column (.noDimension column.name)

/-- How the search for the field of a column ends. -/
inductive Column.FieldEnds (names : List String) (column : Column) : Except Failure Field → Prop where
  | kept {field : Field} (kept : column.KeptIn field) (apart : column.Apart names) :
      FieldEnds names column (.ok field)
  | refused {failure : Failure} (unkept : column.Unkept names failure) :
      FieldEnds names column (.error failure)

theorem ColumnType.isVector_iff {type : ColumnType} :
    type.isVector = true ↔ ∃ told, type.Vectors told := by
  constructor
  · intro vectors
    cases type with
    | list shape items inner =>
        cases inner with
        | float precision =>
            cases shape with
            | short => exact ⟨false, .short items precision⟩
            | long => exact ⟨false, .long items precision⟩
            | fixed length => exact ⟨true, .fixed length items precision⟩
        | _ => cases vectors
    | _ => cases vectors
  · rintro ⟨_, vectors⟩
    cases vectors <;> rfl

theorem Value.lengthIfAny_eq_some {v : Value} {length : Nat} :
    v.lengthIfAny = some length ↔
      ∃ first rest, v = .list (first :: rest) ∧ length = rest.length + 1 := by
  cases v with
  | list items => cases items <;> simp [lengthIfAny, eq_comm]
  | _ => simp [lengthIfAny]

theorem Value.lengthIfAny_eq_none {v : Value} : v.lengthIfAny = none ↔ ¬v.Filled := by
  cases v with
  | list items => cases items <;> simp [lengthIfAny, Filled]
  | _ => simp [lengthIfAny, Filled]

namespace FieldType.Keeps

variable {kind : FieldType} {type : ColumnType} {values : List Value} (keeps : kind.Keeps type values)
include keeps

theorem storable : type.Storable := by
  cases keeps with
  | text => exact .text
  | longText => exact .longText
  | bool => exact .bool
  | signed width => exact .signed width
  | unsigned width => exact .unsigned width
  | float precision => exact .float precision
  | fixed length items precision => exact .vectors (.fixed length items precision)
  | filled vectors => exact .vectors vectors

theorem exists_filled (vectors : type.Vectors false) : ∃ v ∈ values, v.Filled := by
  cases keeps with
  | @filled _ _ front back rest first _ =>
      exact ⟨.list (first :: rest), List.mem_append_right front List.mem_cons_self, first, rest, rfl⟩
  | _ => cases vectors

end FieldType.Keeps

namespace Column

variable {names : List String} {column : Column}

theorem KeptIn.not_unkept {field : Field} (kept : column.KeptIn field) (apart : column.Apart names)
    (failure : Failure) : ¬column.Unkept names failure := by
  intro unkept
  cases unkept with
  | unsupported other => exact other kept.kind.storable
  | ambiguous shared => exact shared apart
  | empty vectors _ none =>
      obtain ⟨v, among, filled⟩ := kept.kind.exists_filled vectors
      exact none v among filled

/-- A column that does not hold vectors may share its name. -/
theorem apart_of_isVector_eq_false (other : column.type.isVector = false) : column.Apart names := by
  intro told vectors
  rw [ColumnType.isVector_iff.mpr ⟨told, vectors⟩] at other
  cases other

section
variable {told : Bool} (vectors : column.type.Vectors told)
include vectors

theorem field_of_vectors : column.field names =
    if names.count column.name = 1 then
      column.dimension?.elim (.error (.noDimension column.name))
        fun length => .ok { name := column.name, type := .vector length }
    else .error (.ambiguousColumn column.name) := by
  obtain ⟨name, type, values⟩ := column
  cases found : Column.dimension? ⟨name, type, values⟩ <;> cases vectors <;>
    simp [Column.field, found, ColumnType.isText, ColumnType.isInteger, ColumnType.isFloat,
      ColumnType.isVector]

theorem fieldEnds_of_shared (shared : names.count column.name ≠ 1) :
    column.FieldEnds names (column.field names) := by
  rw [field_of_vectors vectors, if_neg shared]
  exact .refused (.ambiguous fun apart => shared (apart told vectors))

end

/-- The first vector that is not empty tells how long all of them are. -/
theorem fieldEnds_of_untold (vectors : column.type.Vectors false) (apart : column.Apart names) :
    column.FieldEnds names (column.field names) := by
  have dimension : column.dimension? = column.values.findSome? Value.lengthIfAny := by
    obtain ⟨name, type, values⟩ := column
    cases vectors <;> rfl
  rw [field_of_vectors vectors, if_pos (apart false vectors), dimension]
  cases found : column.values.findSome? Value.lengthIfAny with
  | none =>
      refine .refused (.empty vectors apart ?_)
      intro v among
      exact Value.lengthIfAny_eq_none.mp (List.findSome?_eq_none_iff.mp found v among)
  | some length =>
      obtain ⟨front, v, back, values, here, before⟩ := List.findSome?_eq_some_iff.mp found
      obtain ⟨first, rest, rfl, rfl⟩ := Value.lengthIfAny_eq_some.mp here
      refine .kept ⟨rfl, rfl, ?_⟩ apart
      rw [values]
      exact .filled vectors fun v among => Value.lengthIfAny_eq_none.mp (before v among)

theorem fieldEnds_of_fixed {length : Nat} {items : ItemName} {precision : Precision}
    (fixed : column.type = .list (.fixed length) items (.float precision))
    (apart : column.Apart names) : column.FieldEnds names (column.field names) := by
  have vectors : column.type.Vectors true := fixed ▸ .fixed length items precision
  have dimension : column.dimension? = some length := by
    unfold dimension?
    rw [fixed]
  rw [field_of_vectors vectors, if_pos (apart true vectors), dimension]
  exact .kept ⟨rfl, rfl, fixed ▸ .fixed length items precision column.values⟩ apart

theorem fieldEnds_of_vectors {told : Bool} (vectors : column.type.Vectors told) :
    column.FieldEnds names (column.field names) := by
  by_cases alone : names.count column.name = 1
  · have apart : column.Apart names := fun _ _ => alone
    generalize shape : column.type = type at vectors
    cases vectors with
    | fixed length items precision => exact fieldEnds_of_fixed shape apart
    | short items precision => exact fieldEnds_of_untold (shape ▸ .short items precision) apart
    | long items precision => exact fieldEnds_of_untold (shape ▸ .long items precision) apart
  · exact fieldEnds_of_shared vectors alone

theorem fieldEnds_field (names : List String) (column : Column) :
    column.FieldEnds names (column.field names) := by
  cases holds : column.type.isVector with
  | true =>
      obtain ⟨told, vectors⟩ := ColumnType.isVector_iff.mp holds
      exact fieldEnds_of_vectors vectors
  | false =>
      have apart := @apart_of_isVector_eq_false names column holds
      obtain ⟨name, type, values⟩ := column
      cases type with
      | text => exact .kept ⟨rfl, rfl, .text values⟩ apart
      | longText => exact .kept ⟨rfl, rfl, .longText values⟩ apart
      | bool => exact .kept ⟨rfl, rfl, .bool values⟩ apart
      | signed width => exact .kept ⟨rfl, rfl, .signed width values⟩ apart
      | unsigned width => exact .kept ⟨rfl, rfl, .unsigned width values⟩ apart
      | float precision => exact .kept ⟨rfl, rfl, .float precision values⟩ apart
      | list shape items inner =>
          have refused : Column.field names ⟨name, .list shape items inner, values⟩ =
              .error (.unsupportedColumn name (ColumnType.list shape items inner).name) := by
            simp_all [Column.field, ColumnType.isText, ColumnType.isInteger, ColumnType.isFloat]
          rw [refused]
          refine .refused (.unsupported fun storable => ?_)
          cases storable with
          | vectors vectors =>
              rw [ColumnType.isVector_iff.mpr ⟨_, vectors⟩] at holds
              cases holds
      | _ =>
          refine .refused (.unsupported fun storable => ?_)
          cases storable with
          | vectors vectors => cases vectors

end Column

/-! ## All columns -/

/-- How the search for the fields of columns ends: with the first column that cannot be kept, if
there is one. -/
inductive FieldsEnd (names : List String) (columns : List Column) :
    Except Failure (List Field) → Prop where
  | kept {fields : List Field} (kept : List.Forall₂ Column.KeptIn columns fields)
      (apart : ∀ column ∈ columns, column.Apart names) : FieldsEnd names columns (.ok fields)
  | refused {front back : List Column} {column : Column} {failure : Failure}
      (split : columns = front ++ column :: back)
      (before : ∀ other ∈ front, ∀ failure, ¬other.Unkept names failure)
      (unkept : column.Unkept names failure) : FieldsEnd names columns (.error failure)

theorem fieldsEnd_fieldsOf (names : List String) (columns : List Column) :
    FieldsEnd names columns (fieldsOf names columns) := by
  induction columns with
  | nil => exact .kept .nil fun _ impossible => absurd impossible List.not_mem_nil
  | cons column rest ih =>
      rw [fieldsOf]
      have ends := column.fieldEnds_field names
      cases given : column.field names with
      | error failure =>
          rw [given] at ends
          cases ends with
          | refused unkept =>
              exact @FieldsEnd.refused _ _ [] rest _ _ rfl (fun _ among => by cases among) unkept
      | ok field =>
          rw [given] at ends
          cases ends with
          | kept here apart =>
              cases others : fieldsOf names rest with
              | error failure =>
                  rw [others] at ih
                  cases ih with
                  | @refused front _ _ _ split before unkept =>
                      refine @FieldsEnd.refused _ _ (column :: front) _ _ _
                        (congrArg (column :: ·) split) ?_ unkept
                      exact List.forall_mem_cons.mpr ⟨here.not_unkept apart, before⟩
              | ok fields =>
                  rw [others] at ih
                  cases ih with
                  | kept behind aparts =>
                      exact .kept (.cons here behind) (List.forall_mem_cons.mpr ⟨apart, aparts⟩)

theorem exists_field_of_forall₂ {columns : List Column} {fields : List Field}
    (kept : List.Forall₂ Column.KeptIn columns fields) :
    ∀ column ∈ columns, ∃ field, column.KeptIn field := by
  induction kept with
  | nil => exact fun _ impossible => absurd impossible List.not_mem_nil
  | cons here _ ih => exact List.forall_mem_cons.mpr ⟨⟨_, here⟩, ih⟩

def FieldType.isVector : FieldType → Bool
  | .vector _ => true
  | _ => false

def FieldType.isText : FieldType → Bool
  | .text _ => true
  | _ => false

section
variable {kind : FieldType} {type : ColumnType} {values : List Value} (keeps : kind.Keeps type values)
include keeps

theorem FieldType.Keeps.isVector_eq : kind.isVector = type.isVector := by
  cases keeps with
  | filled vectors => exact (ColumnType.isVector_iff.mpr ⟨_, vectors⟩).symm
  | _ => rfl

theorem FieldType.Keeps.isText_eq : kind.isText = type.isText := by
  cases keeps with
  | filled vectors => cases vectors <;> rfl
  | _ => rfl

end

/-- The fields of a kind have the names of the columns whose types are kept in such fields. -/
theorem names_of_kept {columns : List Column} {fields : List Field} {ofKind : FieldType → Bool}
    {ofType : ColumnType → Bool} (kept : List.Forall₂ Column.KeptIn columns fields)
    (agree : ∀ {kind type values}, FieldType.Keeps kind type values → ofKind kind = ofType type) :
    (fields.filter fun field => ofKind field.type).map Field.name =
      (columns.filter fun column => ofType column.type).map Column.name := by
  induction kept with
  | nil => rfl
  | cons here _ ih =>
      rw [List.filter_cons, List.filter_cons, agree here.kind]
      split
      · rw [List.map_cons, List.map_cons, here.name, ih]
      · exact ih

/-! ## The collection -/

namespace CollectionSchema

def vectorNames (schema : CollectionSchema) : List String :=
  (schema.fields.filter fun field => field.type.isVector).map Field.name

def textNames (schema : CollectionSchema) : List String :=
  (schema.fields.filter fun field => field.type.isText).map Field.name

end CollectionSchema

namespace Table

/-- What a collection can be made from. -/
structure Storable (table : Table) : Prop where
  free : "id" ∉ table.columnNames
  types : ∀ column ∈ table.columns, column.type.Storable
  vectors : ∃ column ∈ table.columns, ∃ told, column.type.Vectors told
  apart : ∀ column ∈ table.columns, column.Apart table.columnNames
  filled : ∀ column ∈ table.columns, column.type.Vectors false → ∃ v ∈ column.values, v.Filled

/-- The first thing that is wrong with a table, and the failure that tells of it. -/
inductive Refused (table : Table) : Failure → Prop where
  | reserved (taken : "id" ∈ table.columnNames) : Refused table (.reservedColumn "id")
  | column {front back : List Column} {column : Column} {failure : Failure}
      (free : "id" ∉ table.columnNames) (split : table.columns = front ++ column :: back)
      (before : ∀ other ∈ front, ∀ failure, ¬other.Unkept table.columnNames failure)
      (unkept : column.Unkept table.columnNames failure) : Refused table failure
  | noVectors (free : "id" ∉ table.columnNames)
      (kept : ∀ column ∈ table.columns, ∀ failure, ¬column.Unkept table.columnNames failure)
      (none : ¬∃ column ∈ table.columns, ∃ told, column.type.Vectors told) :
      Refused table .noVectorColumn

/-- What a collection that is made from a table is like. -/
structure KeptBy (table : Table) (schema : CollectionSchema) : Prop where
  fields : ∃ fields, schema.fields = { name := "id", type := .integer, isPrimary := true } :: fields ∧
    List.Forall₂ Column.KeptIn table.columns fields
  vectors : schema.vectorNames = table.vectorColumns
  texts : schema.textNames = table.textColumns

variable {table : Table}

/-- Where the names are distinct each column is the only one with its name. -/
theorem apart_of_nodup (distinct : table.columnNames.Nodup) {column : Column}
    (among : column ∈ table.columns) : column.Apart table.columnNames := by
  intro _ _
  exact List.nodup_iff_count_eq_one.mp distinct _ (List.mem_map_of_mem among)

theorem Refused.not_storable {failure : Failure} (refused : table.Refused failure) :
    ¬table.Storable := by
  intro storable
  cases refused with
  | reserved taken => exact storable.free taken
  | @column front back column _ _ split before unkept =>
      have among : column ∈ table.columns := by simp [split]
      cases unkept with
      | unsupported other => exact other (storable.types column among)
      | ambiguous shared => exact shared (storable.apart column among)
      | empty vectors _ none =>
          obtain ⟨v, inside, filled⟩ := storable.filled column among vectors
          exact none v inside filled
  | noVectors _ _ none => exact none storable.vectors

/-- A bad value is told of, unless columns of vectors cannot be told apart by their names. -/
theorem Refused.kind {failure : Failure} (refused : table.Refused failure) :
    failure.kind = .badValue ∨ failure.kind = .badKey ∧ ¬table.columnNames.Nodup := by
  cases refused with
  | reserved => exact .inl rfl
  | @column front back column _ _ split _ unkept =>
      cases unkept with
      | ambiguous shared =>
          exact .inr ⟨rfl, fun distinct => shared (apart_of_nodup distinct (by simp [split]))⟩
      | _ => exact .inl rfl
  | noVectors => exact .inl rfl

/-- How making the schema of a collection ends. -/
inductive SchemaEnds (table : Table) : Except Failure CollectionSchema → Prop where
  | made {schema : CollectionSchema} (storable : table.Storable) (kept : table.KeptBy schema) :
      SchemaEnds table (.ok schema)
  | refused {failure : Failure} (refused : table.Refused failure) : SchemaEnds table (.error failure)

theorem isEmpty_vectorColumns (table : Table) : table.vectorColumns.isEmpty = false ↔
    ∃ column ∈ table.columns, ∃ told, column.type.Vectors told := by
  have each : (∃ column ∈ table.columns, ∃ told, column.type.Vectors told) ↔
      ∃ column ∈ table.columns, column.type.isVector = true := by
    simp only [ColumnType.isVector_iff]
  rw [each, vectorColumns, List.isEmpty_map, List.isEmpty_eq_false_iff, Ne, List.filter_eq_nil_iff]
  push Not
  rfl

theorem schemaEnds_collectionSchema (table : Table) : table.SchemaEnds table.collectionSchema := by
  unfold collectionSchema
  split
  · rename_i taken
    exact .refused (.reserved (List.contains_iff_mem.mp taken))
  · rename_i reserved
    have free : "id" ∉ table.columnNames := fun taken => reserved (List.contains_iff_mem.mpr taken)
    have ends := fieldsEnd_fieldsOf table.columnNames table.columns
    cases found : fieldsOf table.columnNames table.columns with
    | error failure =>
        rw [found] at ends
        cases ends with
        | refused split before unkept => exact .refused (.column free split before unkept)
    | ok fields =>
        rw [found] at ends
        cases ends with
        | kept kept apart =>
            have each := exists_field_of_forall₂ kept
            dsimp only
            split
            · rename_i none
              refine .refused (.noVectors free ?_ ?_)
              · intro column among
                obtain ⟨field, here⟩ := each column among
                exact here.not_unkept (apart column among)
              · intro vectors
                rw [table.isEmpty_vectorColumns.mpr vectors] at none
                cases none
            · rename_i some
              have vectors := names_of_kept kept FieldType.Keeps.isVector_eq
              have texts := names_of_kept kept FieldType.Keeps.isText_eq
              refine .made ⟨free, ?_, ?_, apart, ?_⟩ ⟨⟨fields, rfl, kept⟩, vectors, texts⟩
              · intro column among
                obtain ⟨field, here⟩ := each column among
                exact here.kind.storable
              · exact table.isEmpty_vectorColumns.mp (Bool.eq_false_iff.mpr some)
              · intro column among vectors
                obtain ⟨field, here⟩ := each column among
                exact here.kind.exists_filled vectors

/-- A collection is made exactly from the tables whose columns can all be kept, with vectors in one of
them and the name of the primary key free.  Its fields of vectors are the columns that are indexed,
and its fields of texts the columns whose texts are cut.  Any other table is refused, for the name of
the primary key, or else the first column that cannot be kept, or else for want of vectors.  A column of
vectors that shares its name is refused too, so that a table with distinct names is always refused for
a bad value. -/
theorem collectionSchema_made_or_refused (table : Table) :
    ((∃ schema, table.collectionSchema = .ok schema) ↔ table.Storable) ∧
    (∀ schema, table.collectionSchema = .ok schema → table.KeptBy schema ∧
      ∀ (store : VectorStore) (connection : Connection),
        (store.createCollection connection table).2.filterMap Occurrence.change? =
          [.create store.collection schema schema.vectorNames store.metric] ∧
        (store.insertRows connection table).2.2.flatMap Occurrence.rows <+:
          (fitRows schema.textNames table.namedRows).value) ∧
    (∀ failure, table.collectionSchema = .error failure → table.Refused failure ∧
      (failure.kind = .badValue ∨ failure.kind = .badKey ∧ ¬table.columnNames.Nodup)) := by
  have ends := table.schemaEnds_collectionSchema
  refine ⟨⟨?_, ?_⟩, ?_, ?_⟩
  · rintro ⟨schema, made⟩
    rw [made] at ends
    cases ends with
    | made storable => exact storable
  · intro storable
    cases result : table.collectionSchema with
    | ok schema => exact ⟨schema, rfl⟩
    | error failure =>
        rw [result] at ends
        cases ends with
        | refused refused => exact absurd storable refused.not_storable
  · intro schema made
    rw [made] at ends
    cases ends with
    | made _ kept =>
        refine ⟨kept, fun store connection => ⟨?_, ?_⟩⟩
        · rw [VectorStore.createCollection, made, kept.vectors]
          rfl
        · rw [kept.texts]
          exact store.front_insertRows connection table
  · intro failure fails
    rw [fails] at ends
    cases ends with
    | refused refused => exact ⟨refused, refused.kind⟩

end Table

end SourceIndex
