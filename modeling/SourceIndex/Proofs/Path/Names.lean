import SourceIndex.Path
import SourceIndex.Proofs.Text.Rows

/-! # Names in a path

A name stands in a path as it is written (`child_of_isName`), and a path that is read from its own
text is the same path again (`ofString_text`). -/
set_option autoImplicit false
namespace SourceIndex.Path

open Text (pieces)

/-- The text can be a name in a path, as each name in a directory is. -/
structure IsName (text : String) : Prop where
  nonempty : text ≠ ""
  notDot : text ≠ "."
  noSlash : '/' ∉ text.toList

instance (text : String) : Decidable (IsName text) :=
  decidable_of_iff (text ≠ "" ∧ text ≠ "." ∧ '/' ∉ text.toList)
    ⟨fun checks => ⟨checks.1, checks.2.1, checks.2.2⟩,
      fun isName => ⟨isName.nonempty, isName.notDot, isName.noSlash⟩⟩

/-- A path in its normal form passes through names only. -/
def Normal (path : Path) : Prop := ∀ name ∈ path.names, IsName name

/-- The names among the pieces of a text. -/
def namesOf (parts : List (List Char)) : List String :=
  (parts.filter fun piece => !piece.isEmpty && piece != ['.']).map String.ofList

theorem ofString_eq (text : String) :
    ofString text = ⟨anchorOf text.toList, namesOf (pieces '/' text.toList)⟩ := rfl

theorem namesOf_nil_cons (parts : List (List Char)) : namesOf ([] :: parts) = namesOf parts := rfl

theorem IsName.kept {name : String} (isName : IsName name) :
    (!name.toList.isEmpty && name.toList != ['.']) = true := by
  have nonempty : name.toList ≠ [] := fun empty =>
    isName.nonempty (String.toList_eq_nil_iff.mp empty)
  have notDot : name.toList ≠ ['.'] := fun dot => isName.notDot (String.toList_injective dot)
  simp [nonempty, notDot]

theorem IsName.exists_cons {name : String} (isName : IsName name) :
    ∃ c rest, name.toList = c :: rest ∧ c ≠ '/' := by
  cases chars : name.toList with
  | nil => exact absurd (String.toList_eq_nil_iff.mp chars) isName.nonempty
  | cons c rest =>
      have noSlash := isName.noSlash
      rw [chars] at noSlash
      exact ⟨c, rest, rfl, fun same => noSlash (same ▸ List.mem_cons_self)⟩

theorem namesOf_toList {names : List String} (areNames : ∀ name ∈ names, IsName name) :
    namesOf (names.map String.toList) = names := by
  have kept : (names.map String.toList).filter (fun piece => !piece.isEmpty && piece != ['.']) =
      names.map String.toList := by
    apply List.filter_eq_self.mpr
    intro piece among
    obtain ⟨name, member, rfl⟩ := List.mem_map.mp among
    exact (areNames name member).kept
  have back : String.ofList ∘ String.toList = id := funext fun name => String.ofList_toList
  rw [namesOf, kept, List.map_map, back, List.map_id]

theorem normal_ofString (text : String) : (ofString text).Normal := by
  intro name member
  rw [ofString_eq] at member
  obtain ⟨piece, kept, rfl⟩ := List.mem_map.mp member
  obtain ⟨among, shape⟩ := List.mem_filter.mp kept
  simp only [Bool.and_eq_true, Bool.not_eq_true', List.isEmpty_eq_false_iff, bne_iff_ne] at shape
  constructor
  · exact fun empty => shape.1 (String.ofList_injective empty)
  · exact fun dot => shape.2 (String.ofList_injective dot)
  · rw [String.toList_ofList]
    exact Text.not_mem_of_mem_pieces among

/-! ## What a text begins with -/

theorem anchorOf_cons {c : Char} (other : c ≠ '/') (rest : List Char) :
    anchorOf (c :: rest) = .relative := by
  unfold anchorOf
  split <;> simp_all

theorem anchorOf_slash_cons {c : Char} (other : c ≠ '/') (rest : List Char) :
    anchorOf ('/' :: c :: rest) = .root := by
  unfold anchorOf
  split <;> simp_all

theorem anchorOf_slashes_cons {c : Char} (other : c ≠ '/') (rest : List Char) :
    anchorOf ('/' :: '/' :: c :: rest) = .doubleRoot := by
  unfold anchorOf
  split
  · simp_all
  · rfl
  · rename_i single same
    exact absurd (List.cons.inj same).2.symm (single _)
  · rename_i none
    exact absurd rfl (none _)

/-! ## A name as a path -/

theorem ofString_of_isName {name : String} (isName : IsName name) :
    ofString name = ⟨.relative, [name]⟩ := by
  obtain ⟨c, rest, chars, other⟩ := isName.exists_cons
  have alone : pieces '/' name.toList = [name].map String.toList :=
    Text.pieces_of_not_mem isName.noSlash
  have names : namesOf ([name].map String.toList) = [name] :=
    namesOf_toList fun _ member => List.mem_singleton.mp member ▸ isName
  rw [ofString_eq, alone, names, chars, anchorOf_cons other]

/-- The path that goes on from another through more names. -/
def below (path : Path) (more : List String) : Path := { path with names := path.names ++ more }

theorem below_below (path : Path) (first second : List String) :
    (path.below first).below second = path.below (first ++ second) := by
  simp [below]

theorem below_injective (path : Path) {first second : List String}
    (same : path.below first = path.below second) : first = second :=
  List.append_cancel_left (congrArg names same)

/-- The names that lead from one path to another below it. -/
def namesBelow (root path : Path) : List String := path.names.drop root.names.length

theorem namesBelow_below (root : Path) (names : List String) :
    root.namesBelow (root.below names) = names :=
  List.drop_left

theorem child_of_isName (path : Path) {name : String} (isName : IsName name) :
    path.child name = path.below [name] := by
  rw [child, ofString_of_isName isName]
  rfl

theorem Normal.child {path : Path} (normal : path.Normal) {name : String} (isName : IsName name) :
    (path.child name).Normal := by
  rw [child_of_isName path isName]
  intro other member
  rcases List.mem_append.mp member with above | last
  · exact normal other above
  · exact List.mem_singleton.mp last ▸ isName

/-! ## The text of a path -/

theorem exists_cons_intercalate {name : String} (isName : IsName name) (rest : List String) :
    ∃ c others, (String.intercalate "/" (name :: rest)).toList = c :: others ∧ c ≠ '/' := by
  obtain ⟨c, behind, chars, other⟩ := isName.exists_cons
  cases rest with
  | nil =>
      refine ⟨c, behind, ?_, other⟩
      rw [String.toList_intercalate]
      simpa using chars
  | cons next more =>
      rw [String.intercalate_cons_cons, String.append_assoc, String.toList_append, chars]
      exact ⟨c, _, List.cons_append, other⟩

theorem pieces_intercalate {names : List String} (areNames : ∀ name ∈ names, IsName name)
    (nonempty : names ≠ []) :
    pieces '/' (String.intercalate "/" names).toList = names.map String.toList := by
  rw [String.toList_intercalate]
  apply Text.pieces_intercalate
  · intro part among
    obtain ⟨name, member, rfl⟩ := List.mem_map.mp among
    exact (areNames name member).noSlash
  · simpa using nonempty

theorem pieces_slash_cons (rest : List Char) :
    pieces '/' ('/' :: rest) = [] :: pieces '/' rest := by
  rw [Text.pieces_cons, if_pos rfl]

/-- A path is read back from its text. -/
theorem ofString_text {path : Path} (normal : path.Normal) : ofString path.text = path := by
  obtain ⟨anchor, names⟩ := path
  cases names with
  | nil => cases anchor <;> decide
  | cons name rest =>
      have areNames : ∀ each ∈ name :: rest, IsName each := normal
      obtain ⟨c, others, chars, other⟩ :=
        exists_cons_intercalate (areNames name List.mem_cons_self) rest
      have cuts := pieces_intercalate areNames (List.cons_ne_nil name rest)
      have text : (Path.text ⟨anchor, name :: rest⟩).toList =
          (anchorText anchor).toList ++ (String.intercalate "/" (name :: rest)).toList := by
        simp [Path.text]
      have names := namesOf_toList areNames
      rw [ofString_eq, text]
      cases anchor with
      | relative =>
          have front : (anchorText .relative).toList = [] := rfl
          rw [front, List.nil_append, cuts, names, chars, anchorOf_cons other]
      | root =>
          have front : (anchorText .root).toList = ['/'] := rfl
          rw [front, List.singleton_append, pieces_slash_cons, namesOf_nil_cons, cuts, names, chars,
            anchorOf_slash_cons other]
      | doubleRoot =>
          have front : (anchorText .doubleRoot).toList = ['/', '/'] := rfl
          rw [front, List.cons_append, List.singleton_append, pieces_slash_cons, namesOf_nil_cons,
            pieces_slash_cons, namesOf_nil_cons, cuts, names, chars, anchorOf_slashes_cons other]

end SourceIndex.Path
