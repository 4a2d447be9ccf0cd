import SourceIndex.Proofs.Text.Rows

/-! # What lines show of a text

Cutting a text into lines takes line feeds and carriage returns away, and joining lines puts line
feeds back.  All of these are blank, so of a part of a text nothing but blanks is lost in the lines
that it touches (`exists_joinLines`). -/
set_option autoImplicit false
namespace SourceIndex.Text

/-- The text less all of its blank characters. -/
def withoutBlanks (text : List Char) : List Char := text.filter fun c => !isBlank c

theorem withoutBlanks_append (front back : List Char) :
    withoutBlanks (front ++ back) = withoutBlanks front ++ withoutBlanks back :=
  List.filter_append ..

theorem withoutBlanks_eq_nil_iff (text : List Char) :
    withoutBlanks text = [] ↔ allBlank text = true := by
  simp [withoutBlanks, allBlank]

theorem withoutBlanks_infix {part text : List Char} (inside : part <:+: text) :
    withoutBlanks part <:+: withoutBlanks text := inside.filter _

theorem withoutBlanks_dropReturn (line : List Char) :
    withoutBlanks (dropReturn line) = withoutBlanks line := by
  unfold dropReturn
  split
  · rename_i ended
    rcases List.eq_nil_or_concat line with rfl | ⟨front, last, rfl⟩
    · rfl
    · simp only [List.concat_eq_append, List.getLast?_append, List.getLast?_singleton,
        Option.some_or, Option.some.injEq] at ended
      subst ended
      have blank : withoutBlanks ['\r'] = [] := by decide
      rw [List.concat_eq_append, List.dropLast_concat, withoutBlanks_append, blank,
        List.append_nil]
  · rfl

theorem withoutBlanks_intercalate (lines : List (List Char)) :
    withoutBlanks (List.intercalate ['\n'] lines) = (lines.map withoutBlanks).flatten := by
  induction lines with
  | nil => rfl
  | cons line rest ih =>
      cases rest with
      | nil => simp
      | cons next others =>
          have blank : withoutBlanks ['\n'] = [] := by decide
          rw [List.intercalate_cons_cons, withoutBlanks_append, withoutBlanks_append, blank, ih,
            List.append_nil]
          rfl

/-- The pieces of a text are its rows, and perhaps an empty piece behind them. -/
theorem exists_pieces_eq_rows_append (separator : Char) (text : List Char) :
    ∃ more, pieces separator text = rows separator text ++ more := by
  simp only [rows]
  split
  · rename_i ended
    obtain ⟨init, found⟩ := List.getLast?_eq_some_iff.mp ended
    exact ⟨[[]], by rw [found, List.dropLast_concat]⟩
  · exact ⟨[], (List.append_nil _).symm⟩

theorem withoutBlanks_splitLines {text : List Char} {start stop : Nat}
    (inside : stop ≤ (splitLines text).length) :
    withoutBlanks (List.intercalate ['\n'] (((splitLines text).drop start).take (stop - start))) =
      withoutBlanks
        (List.intercalate ['\n'] (((pieces '\n' text).drop start).take (stop - start))) := by
  obtain ⟨more, whole⟩ := exists_pieces_eq_rows_append '\n' text
  have unreturned : withoutBlanks ∘ dropReturn = withoutBlanks :=
    funext withoutBlanks_dropReturn
  rw [splitLines, List.length_map] at inside
  have taken : ((rows '\n' text ++ more).drop start).take (stop - start) =
      ((rows '\n' text).drop start).take (stop - start) := by
    rw [← List.drop_take, ← List.drop_take, List.take_append_of_le_length inside]
  rw [withoutBlanks_intercalate, withoutBlanks_intercalate, whole, taken, splitLines,
    ← List.map_drop, ← List.map_take, List.map_map, unreturned]

/-- The lines that a part of a text touches show all of it but its blanks. -/
theorem exists_joinLines {front part back : List Char} {start stop : Nat}
    (first : start = front.count '\n') (last : stop = start + part.count '\n' + 1)
    (inside : stop ≤ (splitLines (front ++ (part ++ back))).length)
    (word : withoutBlanks part ≠ []) :
    ∃ text, joinLines (splitLines (front ++ (part ++ back))) start stop = some text ∧
      withoutBlanks part <:+: withoutBlanks text := by
  have touched : stop - start = part.count '\n' + 1 := by omega
  have shown := withoutBlanks_infix (infix_intercalate_pieces '\n' front part back)
  rw [← first, ← touched, ← withoutBlanks_splitLines inside] at shown
  refine ⟨_, ?_, shown⟩
  simp only [joinLines]
  rw [if_neg]
  intro blank
  rw [← withoutBlanks_eq_nil_iff] at blank
  rw [blank] at shown
  exact word (List.infix_nil.mp shown)

end SourceIndex.Text
