import SourceIndex.Embedding.Batches
import SourceIndex.Settings

/-! # Batches and their answers

Batches hold all texts in their order (`flatten_batchesOf`).  The vector of a text stands in the
answer to the batch of the text, where the text stands in the batch (`embedTexts_ok`,
`getElem?_batchAt`). -/
set_option autoImplicit false
namespace SourceIndex

theorem atLeastOne_pos (size : Int) : 0 < atLeastOne size := by
  unfold atLeastOne
  omega

theorem Settings.embeddingBatch_pos (settings : Settings) (asked : Option Int) :
    0 < settings.embeddingBatch asked :=
  atLeastOne_pos _

section
variable {α β : Type}

theorem batchesOf_cons (size : Nat) (first : α) (rest : List α) :
    batchesOf size (first :: rest) =
      (first :: rest.take (size - 1)) :: batchesOf size (rest.drop (size - 1)) := by
  rw [batchesOf]

theorem flatten_batchesOf (size : Nat) (texts : List α) : (batchesOf size texts).flatten = texts := by
  fun_induction batchesOf size texts with
  | case1 => rfl
  | case2 first rest ih =>
      rw [List.flatten_cons, ih, List.cons_append, List.take_append_drop]

/-- The first batches hold the first texts. -/
theorem flatten_take_batchesOf {size : Nat} (positive : 0 < size) (texts : List α) : ∀ count,
    ((batchesOf size texts).take count).flatten = texts.take (count * size) := by
  obtain ⟨less, rfl⟩ : ∃ less, size = less + 1 := ⟨size - 1, by omega⟩
  induction texts using batchesOf.induct (less + 1) with
  | case1 =>
      intro count
      simp [batchesOf]
  | case2 first rest ih =>
      intro count
      cases count with
      | zero => simp
      | succ count =>
          have front : (count + 1) * (less + 1) = less + count * (less + 1) + 1 := by
            rw [Nat.succ_mul]
            omega
          rw [batchesOf_cons, List.take_succ_cons, List.flatten_cons, ih, front, List.take_succ_cons,
            List.take_add]
          rfl

theorem lt_length_batchesOf {size : Nat} (positive : 0 < size) (texts : List α) : ∀ count,
    count < (batchesOf size texts).length ↔ count * size < texts.length := by
  obtain ⟨less, rfl⟩ : ∃ less, size = less + 1 := ⟨size - 1, by omega⟩
  induction texts using batchesOf.induct (less + 1) with
  | case1 =>
      intro count
      simp [batchesOf]
  | case2 first rest ih =>
      intro count
      cases count with
      | zero => simp [batchesOf_cons]
      | succ count =>
          have behind := ih count
          rw [List.length_drop] at behind
          rw [batchesOf_cons, List.length_cons, List.length_cons, Nat.succ_mul]
          omega

/-- The batch of a text, by the position of the text. -/
def batchAt (size : Nat) (texts : List α) (i : Nat) : List α :=
  (texts.drop (i / size * size)).take size

/-- Where a text stands in its batch. -/
theorem getElem?_batchAt {size : Nat} (positive : 0 < size) (texts : List α) (i : Nat) :
    (batchAt size texts i)[i % size]? = texts[i]? := by
  rw [batchAt, List.getElem?_take_of_lt (Nat.mod_lt i positive), List.getElem?_drop, Nat.div_add_mod']

theorem batchAt_of_lt {size i : Nat} (early : i < size) (texts : List α) :
    batchAt size texts i = texts.take size := by
  rw [batchAt, Nat.div_eq_of_lt early, Nat.zero_mul, List.drop_zero]

theorem batchAt_add {size : Nat} (positive : 0 < size) (texts : List α) (i : Nat) :
    batchAt size texts (size + i) = batchAt size (texts.drop size) i := by
  rw [batchAt, batchAt, Nat.add_div_left i positive, List.drop_drop, Nat.succ_mul, Nat.add_comm size]

/-- The vector of a text: the client gave it for the batch of the text, behind `calls` earlier
ones. -/
def Answered (client : EmbeddingClient α β) (calls size : Nat) (texts : List α) (i : Nat)
    (vector : β) : Prop :=
  ∃ answer, client (calls + i / size) (batchAt size texts i) = .ok answer ∧
    answer[i % size]? = some vector

theorem Answered.of_first {client : EmbeddingClient α β} {calls size i : Nat} {texts : List α}
    {answer : List β} {vector : β} (given : client calls (texts.take size) = .ok answer)
    (early : i < size) (here : answer[i]? = some vector) :
    Answered client calls size texts i vector := by
  refine ⟨answer, ?_, ?_⟩
  · rw [batchAt_of_lt early, Nat.div_eq_of_lt early]
    exact given
  · rw [Nat.mod_eq_of_lt early]
    exact here

theorem Answered.of_rest {client : EmbeddingClient α β} {calls size i : Nat} {texts : List α}
    {vector : β} (positive : 0 < size)
    (answered : Answered client (calls + 1) size (texts.drop size) i vector) :
    Answered client calls size texts (size + i) vector := by
  obtain ⟨answer, given, here⟩ := answered
  refine ⟨answer, ?_, ?_⟩
  · rw [batchAt_add positive, Nat.add_div_left i positive]
    rw [Nat.add_assoc, Nat.add_comm 1] at given
    exact given
  · rw [Nat.add_mod_left]
    exact here

/-- Where embedding batches succeeds each text has its vector. -/
theorem embedBatches_ok {client : EmbeddingClient α β} {size : Nat} (positive : 0 < size)
    (total : Nat) (texts : List α) : ∀ (calls : Nat) (done : List β) {vectors : List β},
      (embedBatches client total calls done (batchesOf size texts)).1 = .ok vectors →
        ∃ more, vectors = done ++ more ∧ more.length = texts.length ∧
          ∀ i vector, more[i]? = some vector → Answered client calls size texts i vector := by
  induction texts using batchesOf.induct size with
  | case1 =>
      intro calls done vectors ok
      rw [batchesOf] at ok
      cases ok
      exact ⟨[], (List.append_nil _).symm, rfl, fun i vector impossible => by cases impossible⟩
  | case2 first rest ih =>
      intro calls done vectors ok
      obtain ⟨less, rfl⟩ : ∃ less, size = less + 1 := ⟨size - 1, by omega⟩
      rw [batchesOf_cons, embedBatches] at ok
      cases given : client calls (first :: rest.take less) with
      | error failure => simp [given] at ok
      | ok answer =>
          by_cases long : answer.length = (first :: rest.take less).length
          · simp only [Nat.add_sub_cancel, given, long, if_true] at ok
            obtain ⟨more, rfl, length, answers⟩ := ih (calls + 1) (done ++ answer) ok
            refine ⟨answer ++ more, List.append_assoc .., ?_, ?_⟩
            · simp only [List.length_append, long, length, List.length_cons, List.length_take,
                List.length_drop]
              omega
            · intro i vector here
              by_cases early : i < answer.length
              · rw [List.getElem?_append_left early] at here
                have within : i < less + 1 := by
                  simp only [List.length_cons, List.length_take] at long
                  omega
                exact .of_first given within here
              · -- a vector behind the first answer belongs to a text behind a full batch
                rw [List.getElem?_append_right (Nat.le_of_not_lt early)] at here
                have inside := (List.getElem?_eq_some_iff.mp here).1
                have full : answer.length = less + 1 := by
                  simp only [List.length_cons, List.length_take, List.length_drop] at long length
                  omega
                have back : i = less + 1 + (i - answer.length) := by omega
                rw [back]
                exact .of_rest positive (answers _ vector here)
          · simp only [Nat.add_sub_cancel, given, long, if_false] at ok
            cases ok

theorem embedTexts_ok {client : EmbeddingClient α β} {size : Nat} (positive : 0 < size)
    {texts : List α} {vectors : List β} (ok : (embedTexts client size texts).1 = .ok vectors) :
    vectors.length = texts.length ∧
      ∀ i vector, vectors[i]? = some vector → Answered client 0 size texts i vector := by
  obtain ⟨more, rfl, length, answers⟩ := embedBatches_ok positive texts.length texts 0 [] ok
  exact ⟨length, answers⟩

end

end SourceIndex
