import SourceIndex.Proofs.Chunk.RowSpans
import SourceIndex.Record

/-! # The lines of a file and the rows of its bytes

A syntax tree counts rows in bytes, and the lines of a file are cut from its text.  A file has a
line for each row of its bytes, less an empty one at the end, and each line is the text of the bytes
of its row alone, whatever ill-formed bytes stand beside the line feeds (`read_lines`). -/
set_option autoImplicit false
namespace SourceIndex

open Utf8 (lineFeed decode)

namespace Text

section Rows
variable {α : Type} [DecidableEq α] {separator : α}

/-- A part without separators between two separators, or ends of the list, is the piece whose number
is that of the separators in front of it. -/
theorem getElem?_pieces {front part back : List α}
    (opens : front = [] ∨ front.getLast? = some separator) (free : separator ∉ part)
    (closes : back = [] ∨ back.head? = some separator) :
    (pieces separator (front ++ (part ++ back)))[front.count separator]? = some part := by
  have first : (pieces separator (part ++ back))[0]? = some part := by
    rcases closes with rfl | closed
    · rw [List.append_nil, pieces_of_not_mem free]
      rfl
    · obtain ⟨rest, rfl⟩ := List.head?_eq_some_iff.mp closed
      rw [pieces_append_cons, pieces_of_not_mem free]
      rfl
  rcases opens with rfl | opened
  · exact first
  · obtain ⟨init, rfl⟩ := List.getLast?_eq_some_iff.mp opened
    have before : (pieces separator init).length = (init ++ [separator]).count separator := by
      rw [length_pieces, List.count_append, List.count_singleton_self]
    rw [List.append_assoc, List.singleton_append, pieces_append_cons,
      List.getElem?_append_right (Nat.le_of_eq before), before, Nat.sub_self, first]

/-- There is such a part for every number of separators up to that of the list. -/
theorem exists_piece (number : Nat) : ∀ {items : List α}, number ≤ items.count separator →
    ∃ front part back, items = front ++ (part ++ back) ∧ front.count separator = number ∧
      (front = [] ∨ front.getLast? = some separator) ∧ separator ∉ part ∧
      (back = [] ∨ back.head? = some separator) := by
  induction number with
  | zero =>
      intro items _
      by_cases found : separator ∈ items
      · obtain ⟨part, rest, rfl, absent⟩ := List.eq_append_cons_of_mem found
        exact ⟨[], part, separator :: rest, rfl, rfl, Or.inl rfl, absent, Or.inr rfl⟩
      · exact ⟨[], items, [], (List.append_nil items).symm, rfl, Or.inl rfl, found, Or.inl rfl⟩
  | succ number ih =>
      intro items enough
      have found : separator ∈ items := List.count_pos_iff.mp (by omega)
      obtain ⟨init, rest, rfl, absent⟩ := List.eq_append_cons_of_mem found
      rw [List.count_append, List.count_cons_self, List.count_eq_zero.mpr absent] at enough
      have fewer : number ≤ rest.count separator := by omega
      obtain ⟨front, part, back, rfl, before, opens, free, closes⟩ := ih fewer
      refine ⟨init ++ separator :: front, part, back, ?_, ?_, ?_, free, closes⟩
      · simp
      · rw [List.count_append, List.count_cons_self, List.count_eq_zero.mpr absent, before]
        omega
      · rcases opens with rfl | opened
        · simp
        · simp [List.getLast?_cons, opened]

theorem getElem?_rows {items : List α} {number : Nat}
    (within : number < (rows separator items).length) :
    (rows separator items)[number]? = (pieces separator items)[number]? := by
  simp only [rows] at within ⊢
  split at within
  · rename_i ended
    rw [List.length_dropLast] at within
    rw [if_pos ended, List.getElem?_dropLast, if_pos within]
  · rename_i open_
    rw [if_neg open_]

end Rows

end Text

/-- The bytes from `start` up to `stop` are those of a row, less the line feed that ends it: they
begin in the first column of the row, and a line feed or the end of the buffer stands behind them. -/
structure RowSpan (code : List UInt8) (row start stop : Nat) : Prop where
  starts : Point.ofOffset code start = ⟨row, 0⟩
  forward : start ≤ stop
  unbroken : lineFeed ∉ slice code start stop
  ends : stop = code.length ∨ code[stop]? = some lineFeed

theorem columnOf_eq_zero_iff {code : List UInt8} {offset : Nat} : columnOf code offset = 0 ↔
    code.take offset = [] ∨ (code.take offset).getLast? = some lineFeed := by
  rw [columnOf, List.length_eq_zero_iff]
  rcases List.eq_nil_or_concat (code.take offset) with empty | ⟨init, last, whole⟩
  · simp [empty]
  · by_cases breaks : last = lineFeed <;> simp [whole, breaks]

namespace RowSpan

variable {code : List UInt8} {row start stop : Nat}

theorem getElem?_pieces (span : RowSpan code row start stop) :
    (Text.pieces lineFeed code)[row]? = some (slice code start stop) := by
  have place := span.starts
  simp only [Point.ofOffset, Point.mk.injEq] at place
  obtain ⟨number, first⟩ := place
  have closes : code.drop stop = [] ∨ (code.drop stop).head? = some lineFeed := by
    rcases span.ends with last | breaks
    · exact Or.inl (List.drop_eq_nil_of_le (Nat.le_of_eq last.symm))
    · exact Or.inr (by rw [List.head?_drop, breaks])
  have found := Text.getElem?_pieces (columnOf_eq_zero_iff.mp first) span.unbroken closes
  rw [← Utf8.slice_append_drop code span.forward, List.take_append_drop] at found
  rw [← number]
  exact found

/-- Every row has its bytes. -/
theorem exists_of_le (number : row ≤ code.count lineFeed) :
    ∃ start stop, RowSpan code row start stop := by
  obtain ⟨front, part, back, rfl, before, opens, free, closes⟩ := Text.exists_piece row number
  have taken : (front ++ (part ++ back)).take front.length = front := List.take_left
  have middle : slice (front ++ (part ++ back)) front.length (front.length + part.length) = part := by
    simp [slice]
  refine ⟨front.length, front.length + part.length, ?_, Nat.le_add_right _ _, ?_, ?_⟩
  · have column := columnOf_eq_zero_iff.mpr (taken.symm ▸ opens)
    rw [Point.ofOffset, column, rowOf, taken, before]
  · rw [middle]
    exact free
  · rcases closes with rfl | closed
    · simp
    · refine Or.inr ?_
      rw [← List.head?_drop, ← List.append_assoc, ← List.length_append, List.drop_left, closed]

end RowSpan

/-- A row that breaks off in a character, an empty row behind it, and a row without an end. -/
example : (SourceFile.ofBytes (.ofString "a.rs") [0xE2, 0x82, 0x0D, 0x0A, 0x0A, 0x62]).lines =
    [[Utf8.replacement], [], ['b']] := by decide

end SourceIndex
