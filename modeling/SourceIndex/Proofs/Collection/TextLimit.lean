import SourceIndex.Collection.TextLimit
import SourceIndex.Proofs.Table.Entries
import SourceIndex.Proofs.Text.Encoding

/-! # Rows with their texts cut

Cutting the texts in some columns of a row leaves the row as it is but for the texts in these
columns, each cut by itself (`value_fitRow`).  It fails exactly if another value stands in one of the
columns (`cutEnds_fitRow`). -/
set_option autoImplicit false
namespace SourceIndex

/-- A value as it is kept by a collection: a text that is too long is cut. -/
def Value.cut : Value → Value
  | .text s => if Utf8.byteCount s.toList ≤ textLimit then .text s else .text (cutText textLimit s)
  | v => v

theorem longestFront_cutText (limit : Nat) (text : String) :
    Utf8.LongestFront limit text.toList (cutText limit text).toList := by
  rw [cutText, String.toList_ofList, Utf8.decodeDropping_take]
  exact Utf8.longestFront_fitting text.toList limit

/-- Whether a value is a text that is too long. -/
def Value.isLong : Value → Bool
  | .text s => decide (textLimit < (Utf8.encode s.toList).length)
  | _ => false

theorem Value.isLong_text (s : String) :
    (Value.text s).isLong = false ↔ (Utf8.encode s.toList).length ≤ textLimit := by
  rw [Value.isLong, decide_eq_false_iff_not, Nat.not_lt]

theorem Value.cut_of_not_isLong {v : Value} (short : v.isLong = false) : v.cut = v := by
  cases v with
  | text s =>
      rw [Value.isLong_text, Utf8.length_encode] at short
      rw [Value.cut, if_pos short]
  | _ => rfl

theorem Value.isLong_cut (v : Value) : v.cut.isLong = false := by
  cases v with
  | text s =>
      rw [Value.cut]
      split
      · rename_i fits
        rw [Value.isLong_text, Utf8.length_encode]
        exact fits
      · rw [Value.isLong_text]
        exact (longestFront_cutText textLimit s).fits
  | _ => rfl

theorem Value.cut_cut (v : Value) : v.cut.cut = v.cut := Value.cut_of_not_isLong v.isLong_cut

def cutIn (columns : List String) (entry : String × Value) : String × Value :=
  if entry.1 ∈ columns then (entry.1, entry.2.cut) else entry

theorem map_fst_cutIn (columns : List String) (row : NamedRow) :
    (row.map (cutIn columns)).map Prod.fst = row.map Prod.fst := by
  rw [List.map_map]
  refine List.map_congr_left ?_
  intro entry _
  rw [Function.comp_apply, cutIn]
  split <;> rfl

theorem nodup_map_cutIn {row : NamedRow} (distinct : (row.map Prod.fst).Nodup)
    (columns : List String) : ((row.map (cutIn columns)).map Prod.fst).Nodup := by
  rw [map_fst_cutIn]
  exact distinct

/-- A row stays as it is where the value in a column is one that is not cut. -/
theorem map_cutIn_of_cut {row : NamedRow} {column : String}
    (whole : ∀ entry ∈ row, entry.1 = column → entry.2.cut = entry.2) :
    row.map (cutIn [column]) = row := by
  refine (List.map_congr_left ?_).trans (List.map_id row)
  intro entry among
  rw [cutIn]
  split
  · rename_i here
    rw [whole entry among (List.mem_singleton.mp here)]
    rfl
  · rfl

/-! ## What can be cut -/

/-- What stands in the columns of a row are texts, or nothing. -/
def CanCut (columns : List String) (row : NamedRow) : Prop :=
  ∀ entry ∈ row, entry.1 ∈ columns → entry.2 = .null ∨ ∃ s, entry.2 = .text s

theorem cut_isText_iff (v : Value) :
    (v.cut = .null ∨ ∃ s, v.cut = .text s) ↔ (v = .null ∨ ∃ s, v = .text s) := by
  cases v with
  | text s =>
      rw [Value.cut]
      split <;> simp
  | _ => simp [Value.cut]

theorem canCut_cons (column : String) (others : List String) (row : NamedRow) :
    CanCut (column :: others) row ↔
      CanCut [column] row ∧ CanCut others (row.map (cutIn [column])) := by
  constructor
  · intro can
    refine ⟨fun entry among here => can entry among (by simp_all), ?_⟩
    intro cut among named
    obtain ⟨entry, member, rfl⟩ := List.mem_map.mp among
    unfold cutIn at named ⊢
    split at named
    · rename_i here
      rw [if_pos here, cut_isText_iff]
      exact can entry member (by simp_all)
    · rename_i apart
      rw [if_neg apart]
      exact can entry member (List.mem_cons_of_mem _ named)
  · rintro ⟨first, rest⟩ entry among named
    rcases List.mem_cons.mp named with here | behind
    · exact first entry among (List.mem_singleton.mpr here)
    · by_cases here : entry.1 ∈ [column]
      · exact first entry among here
      · have same : cutIn [column] entry = entry := if_neg here
        exact same ▸ rest _ (List.mem_map_of_mem among) (by rw [same]; exact behind)

/-- How cutting ends: it fails exactly if something cannot be cut. -/
inductive CutEnds (can : Prop) : Option Failure → Prop where
  | whole (all : can) : CutEnds can none
  | broken (other : ¬can) : CutEnds can (some .badAttribute)

namespace CutEnds

variable {can : Prop} {failure : Option Failure}

theorem congr {same : Prop} (iff : can ↔ same) (ends : CutEnds can failure) : CutEnds same failure := by
  cases ends with
  | whole all => exact .whole (iff.mp all)
  | broken other => exact .broken (mt iff.mpr other)

theorem eq_none_iff (ends : CutEnds can failure) : failure = none ↔ can := by
  cases ends with
  | whole all => exact ⟨fun _ => all, fun _ => rfl⟩
  | broken other => exact ⟨fun impossible => (nomatch impossible), fun all => absurd all other⟩

theorem andThen {α β : Type} {first : Fitted α} (ends : CutEnds can first.failure) (halted : α → β)
    {next : α → Fitted β} {behind : Prop} (others : CutEnds behind (next first.value).failure) :
    CutEnds (can ∧ behind) (first.andThen halted next).failure := by
  unfold Fitted.andThen
  cases failed : first.failure with
  | some failure =>
      rw [failed] at ends
      cases ends with
      | broken other => exact .broken fun both => other both.1
  | none =>
      rw [failed] at ends
      exact others.congr ⟨fun all => ⟨ends.eq_none_iff.mp rfl, all⟩, And.right⟩

end CutEnds

theorem fitRow_cons {index : Nat} {column : String} {row : NamedRow}
    (unbroken : (fitCell index column row).failure = none) (rest : List String) :
    let first := fitCell index column row
    let others := fitRow index rest first.value
    fitRow index (column :: rest) row =
      ⟨others.value, first.shortened + others.shortened, first.events ++ others.events,
        others.failure⟩ := by
  intro first others
  rw [fitRow, Fitted.andThen, unbroken]

theorem fitRowsFrom_cons {index : Nat} {columns : List String} {row : NamedRow}
    (unbroken : (fitRow index columns row).failure = none) (rest : List NamedRow) :
    let first := fitRow index columns row
    let others := fitRowsFrom columns (index + 1) rest
    fitRowsFrom columns index (row :: rest) =
      ⟨first.value :: others.value, first.shortened + others.shortened,
        first.events ++ others.events, others.failure⟩ := by
  intro first others
  rw [fitRowsFrom, Fitted.andThen, unbroken]

section
variable {row : NamedRow} (distinct : (row.map Prod.fst).Nodup)
include distinct

theorem lookup_of_mem_row {column : String} {entry : String × Value} (among : entry ∈ row)
    (here : entry.1 = column) : Value.lookup column row = some entry.2 :=
  here ▸ Value.lookup_of_mem distinct among

theorem value_fitCell (index : Nat) (column : String) :
    (fitCell index column row).value = row.map (cutIn [column]) := by
  unfold fitCell
  cases found : Value.lookup column row with
  | none =>
      refine (map_cutIn_of_cut ?_).symm
      intro entry among here
      rw [lookup_of_mem_row distinct among here] at found
      cases found
  | some v =>
      have same : ∀ entry ∈ row, entry.1 = column → entry.2 = v := by
        intro entry among here
        exact Option.some.inj ((lookup_of_mem_row distinct among here).symm.trans found)
      cases v with
      | text s =>
          dsimp only
          split
          · rename_i small
            refine (map_cutIn_of_cut ?_).symm
            intro entry among here
            rw [same entry among here, Value.cut, if_pos small]
          · rename_i long
            have there : column ∈ row.map Prod.fst := by
              apply Decidable.byContradiction
              intro absent
              rw [Value.lookup_of_not_mem absent] at found
              cases found
            rw [Value.insert_of_mem distinct _ there]
            refine List.map_congr_left ?_
            intro entry among
            by_cases here : entry.1 = column
            · rw [if_pos here, cutIn, if_pos (List.mem_singleton.mpr here), same entry among here,
                Value.cut, if_neg long]
            · rw [if_neg here, cutIn, if_neg (by simpa using here)]
      | _ =>
          refine (map_cutIn_of_cut ?_).symm
          intro entry among here
          rw [same entry among here]
          rfl

theorem cutEnds_fitCell (index : Nat) (column : String) :
    CutEnds (CanCut [column] row) (fitCell index column row).failure := by
  have own : ∀ v, Value.lookup column row = some v →
      ((v = .null ∨ ∃ s, v = .text s) ↔ CanCut [column] row) := by
    intro v found
    constructor
    · intro fits entry among here
      rw [lookup_of_mem_row distinct among (List.mem_singleton.mp here)] at found
      cases found
      exact fits
    · intro can
      obtain ⟨entry, among, rfl, rfl⟩ := Value.exists_of_lookup found
      exact can entry among (List.mem_singleton_self _)
  unfold fitCell
  cases found : Value.lookup column row with
  | none =>
      refine .whole fun entry among here => ?_
      rw [lookup_of_mem_row distinct among (List.mem_singleton.mp here)] at found
      cases found
  | some v =>
      have iff := own v found
      cases v with
      | null => exact .whole (iff.mp (.inl rfl))
      | text s =>
          dsimp only
          split <;> exact .whole (iff.mp (.inr ⟨s, rfl⟩))
      | _ => exact .broken (mt iff.mpr (by simp))

end

theorem cutIn_cons (column : String) (others : List String) (entry : String × Value) :
    cutIn others (cutIn [column] entry) = cutIn (column :: others) entry := by
  by_cases here : entry.1 = column
  · by_cases again : column ∈ others
    · simp [cutIn, here, again, Value.cut_cut]
    · simp [cutIn, here, again]
  · by_cases behind : entry.1 ∈ others
    · simp [cutIn, here, behind]
    · simp [cutIn, here, behind]

theorem cutEnds_fitRow (index : Nat) (columns : List String) :
    ∀ {row : NamedRow}, (row.map Prod.fst).Nodup →
      CutEnds (CanCut columns row) (fitRow index columns row).failure := by
  induction columns with
  | nil => exact fun _ => .whole fun _ _ impossible => absurd impossible List.not_mem_nil
  | cons column others ih =>
      intro row distinct
      have behind := ih (nodup_map_cutIn distinct [column])
      rw [← value_fitCell distinct index column] at behind
      have both := (cutEnds_fitCell distinct index column).andThen id behind
      rw [value_fitCell distinct] at both
      exact both.congr (canCut_cons column others row).symm

/-- The texts in some columns of a row are cut, each by itself. -/
theorem value_fitRow (index : Nat) (columns : List String) :
    ∀ {row : NamedRow}, (row.map Prod.fst).Nodup → CanCut columns row →
      (fitRow index columns row).value = row.map (cutIn columns) := by
  induction columns with
  | nil =>
      intro row _ _
      refine ((List.map_congr_left ?_).trans (List.map_id row)).symm
      intro entry _
      exact if_neg List.not_mem_nil
  | cons column others ih =>
      intro row distinct can
      obtain ⟨first, rest⟩ := (canCut_cons column others row).mp can
      have unbroken := (cutEnds_fitCell distinct index column).eq_none_iff.mpr first
      rw [fitRow_cons unbroken, value_fitCell distinct index column]
      refine (ih (nodup_map_cutIn distinct [column]) rest).trans ?_
      rw [List.map_map]
      exact List.map_congr_left fun entry _ => cutIn_cons column others entry

section
variable (columns : List String) {rows : List NamedRow}

theorem cutEnds_fitRowsFrom : ∀ index, (∀ row ∈ rows, (row.map Prod.fst).Nodup) →
    CutEnds (∀ row ∈ rows, CanCut columns row) (fitRowsFrom columns index rows).failure := by
  induction rows with
  | nil => exact fun _ _ => .whole fun _ impossible => absurd impossible List.not_mem_nil
  | cons row rest ih =>
      intro index distinct
      obtain ⟨first, others⟩ := List.forall_mem_cons.mp distinct
      have ends := cutEnds_fitRow index columns first
      exact (ends.andThen (· :: rest) (ih (index + 1) others)).congr List.forall_mem_cons.symm

theorem value_fitRowsFrom : ∀ index, (∀ row ∈ rows, (row.map Prod.fst).Nodup) →
    (∀ row ∈ rows, CanCut columns row) →
      (fitRowsFrom columns index rows).value = rows.map (·.map (cutIn columns)) := by
  induction rows with
  | nil => exact fun _ _ _ => rfl
  | cons row rest ih =>
      intro index distinct can
      obtain ⟨first, others⟩ := List.forall_mem_cons.mp distinct
      obtain ⟨canFirst, canOthers⟩ := List.forall_mem_cons.mp can
      have unbroken := (cutEnds_fitRow index columns first).eq_none_iff.mpr canFirst
      rw [fitRowsFrom_cons unbroken, List.map_cons, value_fitRow index columns first canFirst,
        ih _ others canOthers]

end

end SourceIndex
