import SourceIndex.Failure

/-! # Embedding texts in batches

Texts are handed to a client in batches of one size, of which only the last may be smaller, and
the client answers each batch with one vector for each text.  An answer of another length ends
the run, and so does a failure of the client. -/
set_option autoImplicit false
namespace SourceIndex

/-- A client that embeds texts: what it answers when it is called for the n-th time, counted
from zero, with a batch. -/
abbrev EmbeddingClient (α β : Type) := Nat → List α → Except Failure (List β)

/-- What can be seen of a run from outside: the batches handed to the client, and the reports of
how many texts of how many are done. -/
structure EmbeddingTrace (α : Type) where
  batches : List (List α) := []
  progress : List (Nat × Nat) := []
  deriving DecidableEq, Repr, Inhabited

section Batches
variable {α β : Type}

/-- Consecutive batches of `size` texts, the last of which may be smaller.  A batch holds at
least one text. -/
def batchesOf (size : Nat) : List α → List (List α)
  | [] => []
  | first :: rest => (first :: rest.take (size - 1)) :: batchesOf size (rest.drop (size - 1))
termination_by texts => texts.length
decreasing_by
  rw [List.length_drop, List.length_cons]
  omega

/-- Embed batches in order, behind `calls` earlier ones that gave the vectors `done`. -/
def embedBatches (client : EmbeddingClient α β) (total : Nat) (calls : Nat) (done : List β) :
    List (List α) → Except Failure (List β) × EmbeddingTrace α
  | [] => (.ok done, {})
  | batch :: rest =>
    match client calls batch with
    | .error failure => (.error failure, { batches := [batch] })
    | .ok answer =>
      if answer.length = batch.length then
        let vectors := done ++ answer
        let (result, trace) := embedBatches client total (calls + 1) vectors rest
        (result, ⟨batch :: trace.batches, (vectors.length, total) :: trace.progress⟩)
      else (.error (.vectorCount answer.length batch.length), { batches := [batch] })

def embedTexts (client : EmbeddingClient α β) (size : Nat) (texts : List α) :
    Except Failure (List β) × EmbeddingTrace α :=
  let (result, trace) := embedBatches client texts.length 0 [] (batchesOf size texts)
  (result, { trace with progress := (0, texts.length) :: trace.progress })

end Batches

end SourceIndex
