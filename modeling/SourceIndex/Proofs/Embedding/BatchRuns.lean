import SourceIndex.Proofs.Embedding.Batches

/-! # Runs of batches

A run hands the batches of the texts to the client one after the other, up to the first that is not
answered with one vector for each of its texts (`embedBatches_ends`).  So the batches that were handed
over, the reports and the result are settled by the batches that were answered in full. -/
set_option autoImplicit false
namespace SourceIndex

section
variable {α β : Type}

/-- The batch with this number: behind the texts of the batches before it the next `size` texts, or
as many as are left. -/
def sliceAt (size : Nat) (texts : List α) (i : Nat) : List α := (texts.drop (i * size)).take size

theorem length_sliceAt (size : Nat) (texts : List α) (i : Nat) :
    (sliceAt size texts i).length = min size (texts.length - i * size) := by
  rw [sliceAt, List.length_take, List.length_drop]

theorem getElem?_batchesOf {size : Nat} (positive : 0 < size) (texts : List α) : ∀ i,
    i < (batchesOf size texts).length → (batchesOf size texts)[i]? = some (sliceAt size texts i) := by
  obtain ⟨less, rfl⟩ : ∃ less, size = less + 1 := ⟨size - 1, by omega⟩
  induction texts using batchesOf.induct (less + 1) with
  | case1 =>
      intro i inside
      simp [batchesOf] at inside
  | case2 first rest ih =>
      intro i inside
      rw [batchesOf_cons] at inside ⊢
      cases i with
      | zero => simp [sliceAt]
      | succ i =>
          have place : (i + 1) * (less + 1) = (less + i * (less + 1)) + 1 := by
            rw [Nat.succ_mul]
            omega
          rw [List.getElem?_cons_succ, ih i (Nat.lt_of_succ_lt_succ inside), sliceAt, sliceAt, place,
            List.drop_succ_cons, List.drop_drop]
          rfl

theorem take_batchesOf {size : Nat} (positive : 0 < size) (texts : List α) {count : Nat}
    (within : count ≤ (batchesOf size texts).length) :
    (batchesOf size texts).take count = (List.range count).map (sliceAt size texts) := by
  apply List.ext_getElem?
  intro i
  by_cases early : i < count
  · rw [List.getElem?_take_of_lt early, getElem?_batchesOf positive texts i (by omega)]
    simp [early]
  · have late : count ≤ i := Nat.le_of_not_lt early
    rw [List.getElem?_eq_none (Nat.le_trans (List.length_take_le ..) late)]
    simp [late]

/-- The client answers a batch with one vector for each text. -/
def Accepts (client : EmbeddingClient α β) (call : Nat) (batch : List α) : Prop :=
  ∃ answer, client call batch = .ok answer ∧ answer.length = batch.length

/-- The client fails at a batch, or answers it with another number of vectors. -/
inductive Refuses (client : EmbeddingClient α β) (call : Nat) (batch : List α) : Failure → Prop where
  | raises {failure : Failure} (given : client call batch = .error failure) :
    Refuses client call batch failure
  | miscounts {answer : List β} (given : client call batch = .ok answer)
      (other : answer.length ≠ batch.length) :
    Refuses client call batch (.vectorCount answer.length batch.length)

/-- A wrong number of vectors is a bad value. -/
theorem Refuses.kind {client : EmbeddingClient α β} {call : Nat} {batch : List α}
    {failure : Failure} (refuses : Refuses client call batch failure) :
    client call batch = .error failure ∨ failure.kind = .badValue := by
  cases refuses with
  | raises given => exact .inl given
  | miscounts given other => exact .inr rfl

theorem Refuses.not_accepts {client : EmbeddingClient α β} {call : Nat} {batch : List α}
    {failure : Failure} (refuses : Refuses client call batch failure) :
    ¬ Accepts client call batch := by
  rintro ⟨answer, accepted, long⟩
  cases refuses with
  | raises given =>
      rw [given] at accepted
      cases accepted
  | miscounts given other =>
      rw [given] at accepted
      cases accepted
      exact other long

/-- How embedding batches ends behind the answers that were as long as their batches: all batches
are answered so, or the next one is refused. -/
inductive EmbeddingEnd (client : EmbeddingClient α β) (calls : Nat) (done : List β)
    (batches : List (List α)) (answers : List (List β)) (result : Except Failure (List β))
    (handed : List (List α)) : Prop where
  | all (whole : answers.length = batches.length) (given : result = .ok (done ++ answers.flatten))
      (every : handed = batches)
  | refused {batch : List α} {failure : Failure} (next : batches[answers.length]? = some batch)
      (refuses : Refuses client (calls + answers.length) batch failure)
      (given : result = .error failure) (front : handed = batches.take (answers.length + 1))

/-- The answers that were as long as their batches settle a run: how it ends, and what is reported
behind each of them. -/
structure Settles (client : EmbeddingClient α β) (total calls : Nat) (done : List β)
    (batches : List (List α)) (run : Except Failure (List β) × EmbeddingTrace α)
    (answers : List (List β)) : Prop where
  answered : ∀ (i : Nat) answer, answers[i]? = some answer → ∃ batch, batches[i]? = some batch ∧
    client (calls + i) batch = .ok answer ∧ answer.length = batch.length
  ending : EmbeddingEnd client calls done batches answers run.1 run.2.batches
  reports : run.2.progress = (List.range answers.length).map fun i =>
    (done.length + (answers.take (i + 1)).flatten.length, total)

theorem Settles.of_refused {client : EmbeddingClient α β} {calls : Nat} {batch : List α}
    {failure : Failure} (total : Nat) (done : List β) (rest : List (List α))
    (refuses : Refuses client calls batch failure) :
    Settles client total calls done (batch :: rest) (.error failure, { batches := [batch] }) [] where
  answered := by
    intro i answer impossible
    cases impossible
  ending := .refused rfl refuses rfl rfl
  reports := rfl

theorem settles_embedBatches (client : EmbeddingClient α β) (total : Nat)
    (batches : List (List α)) : ∀ (calls : Nat) (done : List β), ∃ answers,
      Settles client total calls done batches (embedBatches client total calls done batches)
        answers := by
  induction batches with
  | nil =>
      intro calls done
      refine ⟨[], ?_, .all rfl ?_ rfl, rfl⟩
      · intro i answer impossible
        cases impossible
      · exact congrArg Except.ok (List.append_nil done).symm
  | cons batch rest ih =>
      intro calls done
      cases given : client calls batch with
      | error failure =>
          simp only [embedBatches, given]
          exact ⟨[], .of_refused total done rest (.raises given)⟩
      | ok answer =>
          by_cases long : answer.length = batch.length
          · obtain ⟨answers, answered, ending, reports⟩ := ih (calls + 1) (done ++ answer)
            have shift (i : Nat) : calls + 1 + i = calls + (i + 1) := by omega
            simp only [embedBatches, given, long, if_true]
            refine ⟨answer :: answers, ?_, ?_, ?_⟩
            · intro i later here
              cases i with
              | zero =>
                  cases here
                  exact ⟨batch, rfl, given, long⟩
              | succ i => exact shift i ▸ answered i later here
            · cases ending with
              | all whole result every =>
                  refine .all (congrArg (· + 1) whole) ?_ (congrArg (batch :: ·) every)
                  rw [result, List.flatten_cons, List.append_assoc]
              | refused next refuses result front =>
                  exact .refused next (shift answers.length ▸ refuses) result
                    (congrArg (batch :: ·) front)
            · rw [reports, List.length_cons, List.range_succ_eq_map, List.map_cons, List.map_map]
              simp [long, Nat.add_assoc]
          · simp only [embedBatches, given, long, if_false]
            exact ⟨[], .of_refused total done rest (.miscounts given long)⟩

/-! ## Runs over texts -/

section
variable {client : EmbeddingClient α β} {total calls : Nat} {done : List β} {batches : List (List α)}
  {run : Except Failure (List β) × EmbeddingTrace α} {answers : List (List β)}

/-- The answers to the first batches hold as many vectors as these batches hold texts. -/
theorem Settles.length_flatten_take (settles : Settles client total calls done batches run answers) :
    ∀ count, count ≤ answers.length →
      (answers.take count).flatten.length = (batches.take count).flatten.length := by
  intro count
  induction count with
  | zero => exact fun _ => rfl
  | succ count ih =>
      intro within
      have here : answers[count]? = some answers[count] := List.getElem?_eq_getElem within
      obtain ⟨batch, there, _, long⟩ := settles.answered count _ here
      rw [List.take_add_one, List.take_add_one, here, there, List.flatten_append, List.flatten_append,
        List.length_append, List.length_append, ih (Nat.le_of_succ_le within)]
      simp [long]

theorem Settles.length_le (settles : Settles client total calls done batches run answers) :
    answers.length ≤ batches.length := by
  cases settles.ending with
  | all whole => exact Nat.le_of_eq whole
  | refused next => exact Nat.le_of_lt (List.getElem?_eq_some_iff.mp next).1

end

/-- What is reported when so many batches are accepted: nothing is done at first, and behind each
batch all texts up to its last are. -/
def batchReports (size total count : Nat) : List (Nat × Nat) :=
  (0, total) :: (List.range count).map fun i => (min ((i + 1) * size) total, total)

section
variable {size total count : Nat}

theorem batchReports_increase (positive : 0 < size) (begun : ∀ i < count, i * size < total) :
    ((batchReports size total count).map Prod.fst).Pairwise (· < ·) := by
  rw [batchReports, List.map_cons, List.map_map, List.pairwise_cons, List.pairwise_map]
  constructor
  · intro done among
    obtain ⟨i, early, rfl⟩ := List.mem_map.mp among
    have some := begun i (List.mem_range.mp early)
    simp only [Function.comp_apply, Nat.succ_mul]
    omega
  · refine List.pairwise_lt_range.imp_of_mem ?_
    intro i j _ late order
    have some := begun j (List.mem_range.mp late)
    have front : (i + 1) * size ≤ j * size := Nat.mul_le_mul_right size order
    simp only [Function.comp_apply, Nat.succ_mul] at front ⊢
    omega

theorem getLast?_batchReports (past : total ≤ count * size) :
    (batchReports size total count).getLast? = some (total, total) := by
  cases count with
  | zero =>
      rw [Nat.zero_mul] at past
      have nothing : total = 0 := Nat.eq_zero_of_le_zero past
      simp [batchReports, nothing]
  | succ count =>
      rw [batchReports, List.range_succ, List.map_append, ← List.cons_append, List.map_singleton,
        List.getLast?_concat, Nat.min_eq_right past]

end

section
variable {client : EmbeddingClient α β} {size : Nat} (positive : 0 < size) {texts : List α}
  {run : Except Failure (List β) × EmbeddingTrace α} {answers : List (List β)}
  (settles : Settles client texts.length 0 [] (batchesOf size texts) run answers)
include positive settles

namespace Settles

theorem batches_eq : run.2.batches.length ≤ (batchesOf size texts).length ∧
    run.2.batches = (List.range run.2.batches.length).map (sliceAt size texts) := by
  have front : ∃ count ≤ (batchesOf size texts).length,
      run.2.batches = (batchesOf size texts).take count := by
    cases settles.ending with
    | all whole given every => exact ⟨_, Nat.le_refl _, by rw [every, List.take_length]⟩
    | refused next refuses given front =>
        exact ⟨_, (List.getElem?_eq_some_iff.mp next).1, front⟩
  obtain ⟨count, within, handed⟩ := front
  have long : run.2.batches.length = count := by
    rw [handed, List.length_take, Nat.min_eq_left within]
  rw [long]
  exact ⟨within, handed.trans (take_batchesOf positive texts within)⟩

theorem answer_of_lt {i : Nat} (early : i < answers.length) :
    client i (sliceAt size texts i) = .ok answers[i] ∧
      answers[i].length = (sliceAt size texts i).length := by
  obtain ⟨batch, there, given, long⟩ := settles.answered i _ (List.getElem?_eq_getElem early)
  rw [getElem?_batchesOf positive texts i (Nat.lt_of_lt_of_le early settles.length_le)] at there
  cases there
  rw [Nat.zero_add] at given
  exact ⟨given, long⟩

theorem refused_next {failure : Failure} (failed : run.1 = .error failure) :
    run.2.batches.length = answers.length + 1 ∧
      Refuses client answers.length (sliceAt size texts answers.length) failure := by
  cases settles.ending with
  | all whole given every =>
      rw [given] at failed
      cases failed
  | refused next refuses given front =>
      rw [given] at failed
      cases failed
      have inside := (List.getElem?_eq_some_iff.mp next).1
      rw [getElem?_batchesOf positive texts _ inside] at next
      cases next
      rw [Nat.zero_add] at refuses
      rw [front, List.length_take, Nat.min_eq_left inside]
      exact ⟨rfl, refuses⟩

omit positive in
theorem all_answered {vectors : List β} (ok : run.1 = .ok vectors) :
    answers.length = (batchesOf size texts).length ∧ run.2.batches = batchesOf size texts ∧
      vectors = answers.flatten := by
  cases settles.ending with
  | all whole given every =>
      rw [given] at ok
      cases ok
      exact ⟨whole, every, List.nil_append _⟩
  | refused next refuses given front =>
      rw [given] at ok
      cases ok

/-- At most one batch more is handed over than are accepted, and that one is refused. -/
theorem length_batches :
    answers.length ≤ run.2.batches.length ∧ run.2.batches.length ≤ answers.length + 1 ∧
      ∀ i, i < run.2.batches.length →
        (Accepts client i (sliceAt size texts i) ↔ i < answers.length) := by
  have accepted : ∀ i, i < answers.length → Accepts client i (sliceAt size texts i) :=
    fun i early => ⟨_, settles.answer_of_lt positive early⟩
  cases result : run.1 with
  | ok vectors =>
      obtain ⟨whole, every, _⟩ := settles.all_answered result
      have count : run.2.batches.length = answers.length := by rw [every, whole]
      refine ⟨Nat.le_of_eq count.symm, Nat.le_succ_of_le (Nat.le_of_eq count), ?_⟩
      intro i handed
      exact ⟨fun _ => count ▸ handed, accepted i⟩
  | error failure =>
      obtain ⟨count, refuses⟩ := settles.refused_next positive result
      refine ⟨by omega, Nat.le_of_eq count, ?_⟩
      intro i handed
      refine ⟨?_, accepted i⟩
      intro accepts
      apply Nat.lt_of_not_le
      intro behind
      have last : i = answers.length := by omega
      exact refuses.not_accepts (last ▸ accepts)

theorem succeeds_iff : (∃ vectors, run.1 = .ok vectors) ↔
    ∀ i, i * size < texts.length → Accepts client i (sliceAt size texts i) := by
  have known := lt_length_batchesOf positive texts
  constructor
  · rintro ⟨vectors, ok⟩ i inside
    obtain ⟨whole, _, _⟩ := settles.all_answered ok
    exact ⟨_, settles.answer_of_lt positive (whole ▸ (known i).mpr inside)⟩
  · intro accepts
    cases result : run.1 with
    | ok vectors => exact ⟨vectors, rfl⟩
    | error failure =>
        obtain ⟨count, refuses⟩ := settles.refused_next positive result
        have within := (settles.batches_eq positive).1
        have inside : answers.length < (batchesOf size texts).length := by omega
        exact absurd (accepts _ ((known _).mp inside)) refuses.not_accepts

theorem joins {vectors : List β} (ok : run.1 = .ok vectors) :
    vectors.length = texts.length ∧ run.2.batches.flatten = texts ∧ vectors = answers.flatten ∧
      (List.range run.2.batches.length).map (fun i => client i (sliceAt size texts i)) =
        answers.map .ok := by
  obtain ⟨whole, every, rfl⟩ := settles.all_answered ok
  have flat := settles.length_flatten_take answers.length (Nat.le_refl _)
  rw [List.take_length, whole, List.take_length, flatten_batchesOf] at flat
  rw [every, ← whole, flatten_batchesOf]
  refine ⟨flat, rfl, rfl, ?_⟩
  apply List.ext_getElem (by simp)
  intro i early _
  simp only [List.length_map, List.length_range] at early
  simp [settles.answer_of_lt positive early]

theorem reports_eq :
    (0, texts.length) :: run.2.progress = batchReports size texts.length answers.length := by
  rw [settles.reports, batchReports]
  congr 1
  apply List.map_congr_left
  intro i early
  have within : i + 1 ≤ answers.length := List.mem_range.mp early
  rw [settles.length_flatten_take _ within, flatten_take_batchesOf positive, List.length_take,
    List.length_nil, Nat.zero_add]

end Settles

end

/-- What a run that embeds texts in batches of `size` keeps to, with whatever client. -/
structure InBatches (client : EmbeddingClient α β) (size : Nat) (texts : List α)
    (run : Except Failure (List β) × EmbeddingTrace α) : Prop where
  slices : run.2.batches = (List.range run.2.batches.length).map (sliceAt size texts)
  /-- Each batch is full, or it is the shorter rest of the texts. -/
  filled : ∀ i < run.2.batches.length, sliceAt size texts i ≠ [] ∧
    ((sliceAt size texts i).length = size ∨ (sliceAt size texts i).length < size ∧
      i * size + (sliceAt size texts i).length = texts.length)
  goesOn : ∀ i, i + 1 < run.2.batches.length → Accepts client i (sliceAt size texts i)
  stops : ∀ failure, run.1 = .error failure → ∃ last, run.2.batches.length = last + 1 ∧
    Refuses client last (sliceAt size texts last) failure ∧
    (client last (sliceAt size texts last) = .error failure ∨ failure.kind = .badValue)
  succeeds : (∃ vectors, run.1 = .ok vectors) ↔
    ∀ i, i * size < texts.length → Accepts client i (sliceAt size texts i)
  joins : ∀ vectors, run.1 = .ok vectors → vectors.length = texts.length ∧
    run.2.batches.flatten = texts ∧ ∃ answers : List (List β), vectors = answers.flatten ∧
      (List.range run.2.batches.length).map (fun i => client i (sliceAt size texts i)) =
        answers.map .ok
  /-- Behind the first report there is one for each batch that is accepted. -/
  reports : ∃ accepted ≤ run.2.batches.length,
    (∀ i < run.2.batches.length, Accepts client i (sliceAt size texts i) ↔ i < accepted) ∧
    run.2.progress = batchReports size texts.length accepted
  increases : (run.2.progress.map Prod.fst).Pairwise (· < ·)
  finishes : ∀ vectors, run.1 = .ok vectors →
    run.2.progress.getLast? = some (texts.length, texts.length)

theorem inBatches_embedTexts (client : EmbeddingClient α β) {size : Nat} (positive : 0 < size)
    (texts : List α) : InBatches client size texts (embedTexts client size texts) := by
  obtain ⟨answers, settles⟩ := settles_embedBatches client texts.length (batchesOf size texts) 0 []
  have known := lt_length_batchesOf positive texts
  obtain ⟨within, slices⟩ := settles.batches_eq positive
  obtain ⟨least, most, accepted⟩ := settles.length_batches positive
  have reports : (embedTexts client size texts).2.progress =
      batchReports size texts.length answers.length := settles.reports_eq positive
  refine ⟨slices, ?_, ?_, ?_, settles.succeeds_iff positive, ?_, ?_, ?_, ?_⟩
  · intro i handed
    have inside := (known i).mp (Nat.lt_of_lt_of_le handed within)
    have long := length_sliceAt size texts i
    exact ⟨List.ne_nil_of_length_pos (by omega), by omega⟩
  · intro i more
    have early : i < answers.length := Nat.lt_of_succ_lt_succ (Nat.lt_of_lt_of_le more most)
    exact (accepted i (Nat.lt_of_succ_lt more)).mpr early
  · intro failure failed
    obtain ⟨count, refuses⟩ := settles.refused_next positive failed
    exact ⟨_, count, refuses, refuses.kind⟩
  · intro vectors ok
    obtain ⟨long, whole, joined, given⟩ := settles.joins positive ok
    exact ⟨long, whole, answers, joined, given⟩
  · exact ⟨answers.length, least, accepted, reports⟩
  · rw [reports]
    apply batchReports_increase positive
    intro i early
    exact (known i).mp (Nat.lt_of_lt_of_le early settles.length_le)
  · intro vectors ok
    rw [reports]
    apply getLast?_batchReports
    apply Nat.le_of_not_lt
    intro more
    exact Nat.ne_of_lt ((known _).mpr more) (settles.all_answered ok).1

/-- A client that embeds each text of its batches by itself gives the same vectors for every size of
the batches. -/
theorem embedTexts_of_each {client : EmbeddingClient α β} {f : α → β} {size : Nat}
    (positive : 0 < size) {texts : List α}
    (each : ∀ i, client i (sliceAt size texts i) = .ok ((sliceAt size texts i).map f)) :
    (embedTexts client size texts).1 = .ok (texts.map f) := by
  have keeps := inBatches_embedTexts client positive texts
  obtain ⟨vectors, ok⟩ := keeps.succeeds.mpr fun i _ => ⟨_, each i, List.length_map f⟩
  obtain ⟨_, whole, answers, joined, given⟩ := keeps.joins vectors ok
  have handed : answers = (embedTexts client size texts).2.batches.map (List.map f) := by
    have slices := congrArg (List.map fun batch => Except.ok (ε := Failure) (batch.map f)) keeps.slices
    rw [List.map_map] at slices
    apply (List.map_inj_right fun _ _ same => Except.ok.inj (ε := Failure) same).mp
    rw [List.map_map, ← given, List.map_congr_left fun i _ => each i]
    exact slices.symm
  rw [ok, joined, handed, ← List.map_flatten, whole]

end

end SourceIndex
