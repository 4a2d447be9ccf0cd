import Mathlib.Data.List.Forall2
import SourceIndex.Proofs.Collection.TextLimit

/-! # What is cut, counted and told

A cell is cut once however often its column is named, so what is counted are the cells that were
too long.  There is an event for each, and where nothing is too long nothing happens. -/
set_option autoImplicit false
namespace SourceIndex

/-- Whether a cell is in one of the columns and holds a text that is too long. -/
def tooLong (columns : List String) (cell : String × Value) : Bool :=
  decide (cell.1 ∈ columns) && cell.2.isLong

/-- What becomes of a cell when the texts in some columns are cut.  Only texts in these columns
change, and they keep as many characters as fit. -/
inductive FittedCell (columns : List String) : String × Value → String × Value → Prop where
  | text {column s t : String} (among : column ∈ columns)
      (longest : Utf8.LongestFront textLimit s.toList t.toList)
      (whole : (Utf8.encode s.toList).length ≤ textLimit → t = s)
      (near : textLimit < (Utf8.encode s.toList).length →
        textLimit ≤ (Utf8.encode t.toList).length + 3) :
      FittedCell columns (column, .text s) (column, .text t)
  | aside {cell : String × Value} (other : cell.1 ∉ columns ∨ ∀ s, cell.2 ≠ .text s) :
      FittedCell columns cell cell

theorem exists_text_cut (s : String) : ∃ t, (Value.text s).cut = .text t ∧
    Utf8.LongestFront textLimit s.toList t.toList := by
  by_cases fits : Utf8.byteCount s.toList ≤ textLimit
  · refine ⟨s, by rw [Value.cut, if_pos fits], .self ?_⟩
    rw [Utf8.length_encode]
    exact fits
  · exact ⟨cutText textLimit s, by rw [Value.cut, if_neg fits], longestFront_cutText textLimit s⟩

theorem fittedCell_cutIn (columns : List String) (cell : String × Value) :
    FittedCell columns cell (cutIn columns cell) := by
  obtain ⟨column, value⟩ := cell
  by_cases among : column ∈ columns
  · have here : cutIn columns (column, value) = (column, value.cut) := if_pos among
    rw [here]
    cases value with
    | text s =>
        obtain ⟨t, cut, longest⟩ := exists_text_cut s
        rw [cut]
        refine .text among longest ?_ longest.limit_le
        intro fits
        exact String.toList_inj.mp (longest.eq_of_fits fits)
    | _ => exact .aside (.inr fun s same => by cases same)
  · have elsewhere : cutIn columns (column, value) = (column, value) := if_neg among
    rw [elsewhere]
    exact .aside (.inl among)

/-! ## Counting -/

/-- A column names one cell of a row, and it is counted if it is too long. -/
theorem countP_tooLong_single {row : NamedRow} (distinct : (row.map Prod.fst).Nodup)
    (column : String) :
    row.countP (tooLong [column]) = ((Value.lookup column row).any Value.isLong).toNat := by
  induction row with
  | nil => rfl
  | cons first rest ih =>
      rw [List.map_cons, List.nodup_cons] at distinct
      have behind := ih distinct.2
      by_cases here : first.1 = column
      · rw [Value.lookup_of_not_mem (here ▸ distinct.1)] at behind
        rw [List.countP_cons, behind]
        cases long : first.2.isLong <;> simp [tooLong, Value.lookup, here, long]
      · rw [List.countP_cons, behind]
        simp [tooLong, Value.lookup, here]

theorem shortened_fitCell {row : NamedRow} (distinct : (row.map Prod.fst).Nodup) (index : Nat)
    (column : String) :
    (fitCell index column row).shortened = row.countP (tooLong [column]) := by
  rw [countP_tooLong_single distinct, fitCell]
  cases found : Value.lookup column row with
  | none => rfl
  | some v =>
      rw [Option.any_some]
      cases v with
      | text s =>
          dsimp only
          split
          · rename_i fits
            rw [← Utf8.length_encode, ← Value.isLong_text] at fits
            rw [fits]
            rfl
          · rename_i long
            rw [← Utf8.length_encode, ← Value.isLong_text, Bool.not_eq_false] at long
            rw [long]
            rfl
      | _ => rfl

/-- A cell that has been cut is not counted again where its column is named a second time. -/
theorem countP_tooLong_cons (column : String) (others : List String) (row : NamedRow) :
    row.countP (tooLong (column :: others)) =
      row.countP (tooLong [column]) + (row.map (cutIn [column])).countP (tooLong others) := by
  induction row with
  | nil => rfl
  | cons first rest ih =>
      rw [List.countP_cons, ih, List.map_cons, List.countP_cons, List.countP_cons]
      by_cases here : first.1 = column
      · simp [tooLong, cutIn, here, Value.isLong_cut]
        omega
      · simp [tooLong, cutIn, here]
        omega

theorem shortened_fitRow (index : Nat) (columns : List String) :
    ∀ {row : NamedRow}, (row.map Prod.fst).Nodup → CanCut columns row →
      (fitRow index columns row).shortened = row.countP (tooLong columns) := by
  induction columns with
  | nil =>
      intro row _ _
      exact (List.countP_eq_zero.mpr fun cell _ => by simp [tooLong]).symm
  | cons column others ih =>
      intro row distinct can
      obtain ⟨first, rest⟩ := (canCut_cons column others row).mp can
      have unbroken := (cutEnds_fitCell distinct index column).eq_none_iff.mpr first
      have keys := nodup_map_cutIn distinct [column]
      rw [fitRow_cons unbroken, value_fitCell distinct index column, countP_tooLong_cons]
      dsimp only
      rw [shortened_fitCell distinct, ih keys rest]

theorem shortened_fitRowsFrom (columns : List String) {rows : List NamedRow} :
    ∀ index, (∀ row ∈ rows, (row.map Prod.fst).Nodup) → (∀ row ∈ rows, CanCut columns row) →
      (fitRowsFrom columns index rows).shortened = rows.flatten.countP (tooLong columns) := by
  induction rows with
  | nil => exact fun _ _ _ => rfl
  | cons row rest ih =>
      intro index distinct can
      obtain ⟨first, others⟩ := List.forall_mem_cons.mp distinct
      obtain ⟨canFirst, canOthers⟩ := List.forall_mem_cons.mp can
      have unbroken := (cutEnds_fitRow index columns first).eq_none_iff.mpr canFirst
      rw [fitRowsFrom_cons unbroken, List.flatten_cons, List.countP_append]
      dsimp only
      rw [shortened_fitRow index columns first canFirst, ih _ others canOthers]

/-! ## Events -/

/-- There is one event for each text that was cut, and no other. -/
structure Fitted.Told {α : Type} (fitted : Fitted α) : Prop where
  count : fitted.events.length = fitted.shortened
  warns : ∀ event ∈ fitted.events, event.level = .warning ∧ event.name = "milvus_value_truncated"

section
variable {α β : Type}

theorem Fitted.Told.unchanged (value : α) (failure : Option Failure) :
    Fitted.Told { value, failure } :=
  ⟨rfl, fun _ among => by cases among⟩

theorem Fitted.Told.andThen {first : Fitted α} (told : first.Told) (halted : α → β)
    {next : α → Fitted β} (behind : (next first.value).Told) : (first.andThen halted next).Told := by
  unfold Fitted.andThen
  split
  · exact ⟨told.count, told.warns⟩
  · refine ⟨?_, ?_⟩
    · rw [List.length_append, told.count, behind.count]
    · intro event among
      exact (List.mem_append.mp among).elim (told.warns event) (behind.warns event)

end

theorem told_fitCell (index : Nat) (column : String) (row : NamedRow) :
    (fitCell index column row).Told := by
  unfold fitCell
  split
  · exact .unchanged row none
  · exact .unchanged row none
  · dsimp only
    split
    · exact .unchanged row none
    · refine ⟨rfl, ?_⟩
      intro event among
      rw [List.mem_singleton.mp among]
      exact ⟨rfl, rfl⟩
  · exact .unchanged row (some .badAttribute)

theorem told_fitRow (index : Nat) (columns : List String) :
    ∀ row : NamedRow, (fitRow index columns row).Told := by
  induction columns with
  | nil => exact fun row => .unchanged row none
  | cons column others ih =>
      intro row
      exact (told_fitCell index column row).andThen id (ih _)

theorem told_fitRowsFrom (columns : List String) (rows : List NamedRow) :
    ∀ index, (fitRowsFrom columns index rows).Told := by
  induction rows with
  | nil => exact fun _ => .unchanged [] none
  | cons row rest ih =>
      intro index
      have behind := ih (index + 1)
      exact (told_fitRow index columns row).andThen (· :: rest) ⟨behind.count, behind.warns⟩

/-! ## Cutting once -/

theorem cutIn_of_not_tooLong {columns : List String} {cell : String × Value}
    (short : tooLong columns cell = false) : cutIn columns cell = cell := by
  by_cases among : cell.1 ∈ columns
  · have whole : cell.2.isLong = false := by simpa [tooLong, among] using short
    rw [cutIn, if_pos among, Value.cut_of_not_isLong whole]
  · exact if_neg among

theorem tooLong_cutIn (columns : List String) (cell : String × Value) :
    tooLong columns (cutIn columns cell) = false := by
  by_cases among : cell.1 ∈ columns
  · simp [tooLong, cutIn, among, Value.isLong_cut]
  · simp [tooLong, cutIn, among]

theorem canCut_map_cutIn {columns : List String} {row : NamedRow} (can : CanCut columns row) :
    CanCut columns (row.map (cutIn columns)) := by
  intro cut among named
  obtain ⟨entry, member, rfl⟩ := List.mem_map.mp among
  by_cases here : entry.1 ∈ columns
  · rw [cutIn, if_pos here, cut_isText_iff]
    exact can entry member here
  · rw [cutIn, if_neg here] at named
    exact absurd named here

section
variable (columns : List String) {rows : List NamedRow}
  (distinct : ∀ row ∈ rows, (row.map Prod.fst).Nodup) (can : ∀ row ∈ rows, CanCut columns row)
include distinct can

theorem failure_fitRows : (fitRows columns rows).failure = none :=
  (cutEnds_fitRowsFrom columns 0 distinct).eq_none_iff.mpr can

/-- Rows without a text that is too long are left as they are. -/
theorem fitRows_of_not_tooLong
    (short : ∀ row ∈ rows, ∀ cell ∈ row, tooLong columns cell = false) :
    fitRows columns rows = { value := rows } := by
  have value : (fitRows columns rows).value = rows := by
    refine (value_fitRowsFrom columns 0 distinct can).trans ?_
    refine (List.map_congr_left ?_).trans (List.map_id rows)
    intro row there
    refine (List.map_congr_left ?_).trans (List.map_id row)
    exact fun cell among => cutIn_of_not_tooLong (short row there cell among)
  have shortened : (fitRows columns rows).shortened = 0 := by
    refine (shortened_fitRowsFrom columns 0 distinct can).trans (List.countP_eq_zero.mpr ?_)
    intro cell among
    obtain ⟨row, there, inside⟩ := List.mem_flatten.mp among
    rw [short row there cell inside]
    exact Bool.false_ne_true
  have events : (fitRows columns rows).events = [] :=
    List.eq_nil_of_length_eq_zero ((told_fitRowsFrom columns rows 0).count.trans shortened)
  have unbroken := failure_fitRows columns distinct can
  cases fitted : fitRows columns rows with
  | mk kept count told failure =>
      rw [fitted] at value shortened events unbroken
      cases value
      cases shortened
      cases events
      cases unbroken
      rfl

theorem fitRows_fitRows :
    fitRows columns (fitRows columns rows).value =
      { value := (fitRows columns rows).value } := by
  rw [show (fitRows columns rows).value = _ from value_fitRowsFrom columns 0 distinct can]
  apply fitRows_of_not_tooLong
  · intro row among
    obtain ⟨original, there, rfl⟩ := List.mem_map.mp among
    exact nodup_map_cutIn (distinct original there) columns
  · intro row among
    obtain ⟨original, there, rfl⟩ := List.mem_map.mp among
    exact canCut_map_cutIn (can original there)
  · intro row there cell among
    obtain ⟨original, _, rfl⟩ := List.mem_map.mp there
    obtain ⟨before, _, rfl⟩ := List.mem_map.mp among
    exact tooLong_cutIn columns before

/-- Each text in the columns keeps the longest front that fits and every other cell is left alone,
the texts that were cut are counted and told of, and cutting a second time does nothing.  Nothing
fails where the columns hold texts or nothing. -/
theorem fitRows_fits :
    (fitRows columns rows).failure = none ∧
      List.Forall₂ (List.Forall₂ (FittedCell columns)) rows (fitRows columns rows).value ∧
      (fitRows columns rows).shortened = rows.flatten.countP (tooLong columns) ∧
      (fitRows columns rows).Told ∧
      fitRows columns (fitRows columns rows).value =
        { value := (fitRows columns rows).value } := by
  refine ⟨failure_fitRows columns distinct can, ?_, shortened_fitRowsFrom columns 0 distinct can,
    told_fitRowsFrom columns rows 0, fitRows_fitRows columns distinct can⟩
  rw [fitRows, value_fitRowsFrom columns 0 distinct can, List.forall₂_map_right_iff,
    List.forall₂_same]
  intro row _
  rw [List.forall₂_map_right_iff, List.forall₂_same]
  exact fun cell _ => fittedCell_cutIn columns cell

end

/-- Two rows, one with a text of so many characters of two bytes each. -/
def accentedRows (characters : Nat) : List NamedRow :=
  [[("text", .text (String.ofList (List.replicate characters 'é'))), ("file_path", .null)],
    [("file_path", .text "/a.py"), ("chunk", .integer 7)]]

theorem countP_accentedRows {characters : Nat} (long : textLimit < characters * 2) :
    (accentedRows characters).flatten.countP (tooLong ["text", "file_path", "text"]) = 1 := by
  have accented : (Value.text (String.ofList (List.replicate characters 'é'))).isLong = true := by
    rw [Value.isLong, String.toList_ofList, Utf8.length_encode_replicate]
    exact decide_eq_true long
  have path : (Value.text "/a.py").isLong = false := (Value.isLong_text "/a.py").mpr (by decide)
  have missing : Value.null.isLong = false := rfl
  simp [accentedRows, tooLong, accented, path, missing]

theorem accentedRows_fits :
    let columns := ["text", "file_path", "text"]
    let rows := accentedRows textLimit
    (∀ row ∈ rows, (row.map Prod.fst).Nodup) ∧ (∀ row ∈ rows, CanCut columns row) ∧
      (fitRows columns rows).failure = none ∧
      List.Forall₂ (List.Forall₂ (FittedCell columns)) rows (fitRows columns rows).value ∧
      (fitRows columns rows).shortened = 1 ∧ (fitRows columns rows).Told ∧
      fitRows columns (fitRows columns rows).value =
        { value := (fitRows columns rows).value } := by
  intro columns rows
  have distinct : ∀ row ∈ rows, (row.map Prod.fst).Nodup :=
    List.forall_mem_cons.mpr ⟨by simp, List.forall_mem_singleton.mpr (by simp)⟩
  have can : ∀ row ∈ rows, CanCut columns row := by
    refine List.forall_mem_cons.mpr ⟨?_, List.forall_mem_singleton.mpr ?_⟩
    · exact List.forall_mem_cons.mpr
        ⟨fun _ => .inr ⟨_, rfl⟩, List.forall_mem_singleton.mpr fun _ => .inl rfl⟩
    · refine List.forall_mem_cons.mpr ⟨fun _ => .inr ⟨_, rfl⟩, List.forall_mem_singleton.mpr ?_⟩
      exact fun named => absurd named (by decide)
  obtain ⟨whole, cells, counted, told, again⟩ := fitRows_fits columns distinct can
  have one := countP_accentedRows (show textLimit < textLimit * 2 by decide)
  exact ⟨distinct, can, whole, cells, counted.trans one, told, again⟩

end SourceIndex
