import SourceIndex.Text.Lines

/-! # Rows of a text

The pieces of a text are those of the standard library (`pieces_eq_splitOn`).  A text has as many
rows as separators, and one more where something stands behind the last of them (`length_rows`).
A part of a text is found again in the rows from the one it begins in to the one it ends in
(`infix_intercalate_pieces`). -/
set_option autoImplicit false
namespace SourceIndex.Text

section Pieces
variable {α : Type} [DecidableEq α]

theorem pieces_cons (separator item : α) (rest : List α) :
    pieces separator (item :: rest) =
      if item = separator then [] :: pieces separator rest
      else (pieces separator rest).modifyHead (item :: ·) := by
  have nonempty : ∀ items : List α, pieces separator items ≠ [] := by
    intro items
    cases items with
    | nil => exact List.cons_ne_nil _ _
    | cons first others =>
        rw [pieces, List.foldr_cons]
        split
        · exact List.cons_ne_nil _ _
        · split <;> exact List.cons_ne_nil _ _
  by_cases cut : item = separator
  · rw [if_pos cut]
    exact if_pos cut
  · rw [if_neg cut]
    refine (if_neg cut).trans ?_
    cases cuts : pieces separator rest with
    | nil => exact absurd cuts (nonempty rest)
    | cons piece others =>
        unfold pieces at cuts
        rw [cuts]
        rfl

theorem pieces_eq_splitOn (separator : α) (items : List α) :
    pieces separator items = items.splitOn separator := by
  induction items with
  | nil => rfl
  | cons item rest ih =>
      rw [pieces_cons, ih, List.splitOn_cons_eq_if_modifyHead]
      simp only [beq_iff_eq]

theorem pieces_ne_nil (separator : α) (items : List α) : pieces separator items ≠ [] := by
  rw [pieces_eq_splitOn]
  exact List.splitOn_ne_nil separator items

theorem pieces_append_cons (separator : α) (front back : List α) :
    pieces separator (front ++ separator :: back) =
      pieces separator front ++ pieces separator back := by
  simp only [pieces_eq_splitOn, List.splitOn_append_cons_self]

theorem pieces_of_not_mem {separator : α} {items : List α} (absent : separator ∉ items) :
    pieces separator items = [items] := by
  rw [pieces_eq_splitOn, List.splitOn_eq_singleton absent]

theorem not_mem_of_mem_pieces {separator : α} {items piece : List α}
    (among : piece ∈ pieces separator items) : separator ∉ piece := by
  induction items generalizing piece with
  | nil =>
      rw [List.mem_singleton.mp among]
      exact List.not_mem_nil
  | cons item rest ih =>
      rw [pieces_cons] at among
      split at among
      · rcases List.mem_cons.mp among with rfl | later
        · exact List.not_mem_nil
        · exact ih later
      · rename_i other
        obtain ⟨first, others, cuts⟩ := List.exists_cons_of_ne_nil (pieces_ne_nil separator rest)
        rw [cuts, List.modifyHead_cons, List.mem_cons] at among
        rcases among with rfl | later
        · intro inside
          rcases List.mem_cons.mp inside with same | behind
          · exact other same.symm
          · exact ih (cuts ▸ List.mem_cons_self) behind
        · exact ih (cuts ▸ List.mem_cons_of_mem _ later)

theorem pieces_intercalate {separator : α} {parts : List (List α)}
    (free : ∀ part ∈ parts, separator ∉ part) (nonempty : parts ≠ []) :
    pieces separator ([separator].intercalate parts) = parts := by
  rw [pieces_eq_splitOn, List.splitOn_intercalate separator free nonempty]

theorem length_pieces (separator : α) (items : List α) :
    (pieces separator items).length = items.count separator + 1 := by
  induction items with
  | nil => rfl
  | cons item rest ih =>
      rw [pieces_cons, List.count_cons]
      by_cases same : item = separator
      · simp [same, ih]
      · simp [same, ih]

theorem exists_pieces_concat {separator last : α} (other : last ≠ separator) (front : List α) :
    ∃ init piece, pieces separator (front ++ [last]) = init ++ [piece ++ [last]] := by
  induction front with
  | nil => exact ⟨[], [], by simp [pieces, other]⟩
  | cons item front ih =>
      obtain ⟨init, piece, found⟩ := ih
      rw [List.cons_append, pieces_cons, found]
      by_cases same : item = separator
      · exact ⟨[] :: init, piece, by simp [same]⟩
      · cases init with
        | nil => exact ⟨[], item :: piece, by simp [same]⟩
        | cons first init => exact ⟨(item :: first) :: init, piece, by simp [same]⟩

/-- The last piece is empty where nothing stands behind the last separator. -/
theorem getLast?_pieces (separator : α) (items : List α) :
    (pieces separator items).getLast? = some [] ↔
      items = [] ∨ items.getLast? = some separator := by
  rcases List.eq_nil_or_concat items with rfl | ⟨front, last, rfl⟩
  · exact ⟨fun _ => Or.inl rfl, fun _ => rfl⟩
  · rw [List.concat_eq_append]
    by_cases same : last = separator
    · subst same
      rw [pieces_append_cons]
      simp [pieces]
    · obtain ⟨init, piece, found⟩ := exists_pieces_concat same front
      rw [found]
      simp [same]

theorem length_rows (separator : α) (items : List α) :
    (rows separator items).length = items.count separator +
      if items = [] ∨ items.getLast? = some separator then 0 else 1 := by
  have total := length_pieces separator items
  simp only [rows, getLast?_pieces]
  split
  · rw [List.length_dropLast, total]
    rfl
  · exact total

/-- The row of an item is one of the rows. -/
theorem count_take_lt_length_rows {separator : α} {items : List α} {index : Nat}
    (inside : index < items.length) :
    (items.take index).count separator < (rows separator items).length := by
  have whole : (items.take index).count separator + (items.drop index).count separator =
      items.count separator := by
    rw [← List.count_append, List.take_append_drop]
  rw [length_rows]
  split
  · rename_i ended
    rcases ended with rfl | ended
    · exact absurd inside (Nat.not_lt_zero index)
    · have last : separator ∈ items.drop index := by
        apply List.mem_of_getLast?
        rw [List.getLast?_drop, if_neg (Nat.not_le_of_lt inside), ended]
      have found := List.count_pos_iff.mpr last
      omega
  · omega

/-! ## A part of a text in its rows -/

/-- The rows from the one that a text ends in on, when more stands behind it. -/
theorem exists_drop_pieces (separator : α) (front rest : List α) :
    ∃ opened, (pieces separator (front ++ rest)).drop (front.count separator) =
      (pieces separator rest).modifyHead (opened ++ ·) := by
  induction front with
  | nil =>
      refine ⟨[], ?_⟩
      rw [List.nil_append, List.count_nil, List.drop_zero]
      cases pieces separator rest <;> rfl
  | cons item front ih =>
      obtain ⟨opened, found⟩ := ih
      rw [List.cons_append, pieces_cons, List.count_cons]
      by_cases same : item = separator
      · exact ⟨opened, by simpa [same] using found⟩
      · simp only [same, if_false, beq_iff_eq, Nat.add_zero]
        cases breaks : front.count separator with
        | zero =>
            rw [breaks, List.drop_zero] at found
            refine ⟨item :: opened, ?_⟩
            rw [List.drop_zero, found]
            cases pieces separator rest <;> rfl
        | succ n =>
            rw [breaks] at found
            refine ⟨opened, ?_⟩
            rw [← found]
            cases pieces separator (front ++ rest) <;> rfl

omit [DecidableEq α] in
theorem intercalate_modifyHead (separator : α) (opened : List α) {lines : List (List α)}
    (nonempty : lines ≠ []) :
    List.intercalate [separator] (lines.modifyHead (opened ++ ·)) =
      opened ++ List.intercalate [separator] lines := by
  cases lines with
  | nil => exact absurd rfl nonempty
  | cons line others =>
      cases others with
      | nil => simp
      | cons next others => simp [List.intercalate_cons_cons]

/-- The rows up to the one that a text ends in, when more stands behind it. -/
theorem exists_take_pieces (separator : α) (front rest : List α) :
    ∃ after, List.intercalate [separator]
      ((pieces separator (front ++ rest)).take (front.count separator + 1)) = front ++ after := by
  induction front with
  | nil =>
      rw [List.nil_append, List.count_nil]
      cases found : pieces separator rest with
      | nil => exact absurd found (pieces_ne_nil separator rest)
      | cons first others => exact ⟨first, by simp⟩
  | cons item front ih =>
      obtain ⟨after, found⟩ := ih
      refine ⟨after, ?_⟩
      have nonempty : (pieces separator (front ++ rest)).take (front.count separator + 1) ≠ [] := by
        simp [pieces_ne_nil]
      rw [List.cons_append, pieces_cons, List.count_cons]
      by_cases same : item = separator
      · subst same
        rw [if_pos rfl, beq_self_eq_true, if_pos rfl, List.take_succ_cons,
          List.intercalate_cons_of_ne_nil nonempty, found]
        rfl
      · have moved := intercalate_modifyHead separator [item] nonempty
        rw [found] at moved
        simp only [same, if_false, beq_iff_eq, Nat.add_zero]
        refine Eq.trans ?_ moved
        cases pieces separator (front ++ rest) <;> rfl

/-- A part of a text stands in the rows from the one it begins in to the one it ends in. -/
theorem infix_intercalate_pieces (separator : α) (front part back : List α) :
    part <:+: List.intercalate [separator]
      (((pieces separator (front ++ (part ++ back))).drop (front.count separator)).take
        (part.count separator + 1)) := by
  obtain ⟨opened, dropped⟩ := exists_drop_pieces separator front (part ++ back)
  obtain ⟨after, taken⟩ := exists_take_pieces separator part back
  have nonempty : (pieces separator (part ++ back)).take (part.count separator + 1) ≠ [] := by
    simp [pieces_ne_nil]
  have moved : ((pieces separator (part ++ back)).modifyHead (opened ++ ·)).take
        (part.count separator + 1) =
      ((pieces separator (part ++ back)).take (part.count separator + 1)).modifyHead
        (opened ++ ·) := by
    cases pieces separator (part ++ back) <;> rfl
  rw [dropped, moved, intercalate_modifyHead separator opened nonempty, taken]
  exact ⟨opened, after, by simp⟩

end Pieces

end SourceIndex.Text
