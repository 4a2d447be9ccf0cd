/-! # Pieces of a list

A list cut at a separator.  Nothing is lost: joined by the separator again, the pieces are the
list. -/
set_option autoImplicit false
namespace SourceIndex.Text

section
variable {α : Type} [DecidableEq α]

/-- The pieces of a list between its separators: `n` separators make `n + 1` pieces. -/
def pieces (separator : α) (items : List α) : List (List α) :=
  items.foldr
    (fun item rest =>
      if item = separator then [] :: rest
      else match rest with
        | piece :: others => (item :: piece) :: others
        | [] => [[item]])
    [[]]

end

end SourceIndex.Text
