import Mathlib.Data.List.Chain
import SourceIndex.Proofs.Chunk.Merging
import SourceIndex.Proofs.Chunk.Weights

/-! # Joining as far as the budget goes

Joining cuts the pieces into runs and gives one chunk for each.  A run is closed only where the next
piece does not fit to it, so no two neighbours among the chunks fit together (`merge_full`), and the
chunk that begins later is never closed before the one that begins earlier.  Hence there is no cut of
the pieces into fewer runs that fit (`merge_fewest`). -/
set_option autoImplicit false
namespace SourceIndex

open Utf8 (Boundary)

namespace Chunk

instance decidableInOrder (high : Nat) : (low : Nat) → (chunks : List Chunk) →
    Decidable (InOrder low high chunks)
  | low, [] => inferInstanceAs (Decidable (low ≤ high))
  | low, chunk :: rest =>
    have : Decidable (InOrder chunk.stop high rest) := decidableInOrder high chunk.stop rest
    inferInstanceAs (Decidable (low ≤ chunk.start ∧ chunk.start ≤ chunk.stop ∧ _))

/-- The chunks stand in order in the buffer and do not cut its characters. -/
structure Laid (code : List UInt8) (chunks : List Chunk) : Prop where
  order : InOrder 0 code.length chunks
  aligned : ∀ chunk ∈ chunks, Boundary code chunk.start ∧ Boundary code chunk.stop

instance (code : List UInt8) (chunks : List Chunk) : Decidable (Laid code chunks) :=
  decidable_of_iff (InOrder 0 code.length chunks ∧
      ∀ chunk ∈ chunks, Boundary code chunk.start ∧ Boundary code chunk.stop)
    ⟨fun checks => ⟨checks.1, checks.2⟩, fun laid => ⟨laid.order, laid.aligned⟩⟩

namespace Laid

variable {code : List UInt8}

theorem left {front back : List Chunk} (laid : Laid code (front ++ back)) : Laid code front where
  order := by
    obtain ⟨middle, first, second⟩ := laid.order.split
    exact first.to_higher second.le
  aligned := fun chunk among => laid.aligned chunk (List.mem_append_left _ among)

theorem right {front back : List Chunk} (laid : Laid code (front ++ back)) : Laid code back where
  order := by
    obtain ⟨middle, first, second⟩ := laid.order.split
    exact second.from_lower first.le
  aligned := fun chunk among => laid.aligned chunk (List.mem_append_right _ among)

theorem tail {first : Chunk} {rest : List Chunk} (laid : Laid code (first :: rest)) :
    Laid code rest :=
  @right code [first] rest laid

/-- From the start of one chunk to the start of the next. -/
theorem start_le {first second : Chunk} {rest : List Chunk}
    (laid : Laid code (first :: second :: rest)) : first.start ≤ second.start :=
  Nat.le_trans laid.order.2.1 laid.order.2.2.1

theorem join {splitter : Splitter} {first second : Chunk} {rest : List Chunk}
    (laid : Laid code (first :: second :: rest)) :
    Laid code (splitter.join code first second :: rest) where
  order := splitter.join_inOrder code laid.order
  aligned := by
    obtain ⟨here, behind⟩ := List.forall_mem_cons.mp laid.aligned
    obtain ⟨next, others⟩ := List.forall_mem_cons.mp behind
    exact List.forall_mem_cons.mpr ⟨⟨here.1, next.2⟩, others⟩

end Laid

/-- Neighbouring pieces, at least one. -/
structure Run where
  first : Chunk
  others : List Chunk
  deriving DecidableEq, Repr

namespace Run

def pieces (run : Run) : List Chunk := run.first :: run.others

def last (run : Run) : Chunk := run.others.getLastD run.first

/-- The row behind the last one that a piece of the run touches. -/
def stopRow (run : Run) : Nat :=
  run.others.foldl (fun row piece => max row piece.stopRow) run.first.stopRow

end Run

end Chunk

namespace Splitter

open Chunk (InOrder Laid Run)

variable (splitter : Splitter) (code : List UInt8)

/-- No two neighbours fit together. -/
def Full (chunks : List Chunk) : Prop :=
  chunks.IsChain fun left right => splitter.budget < splitter.sizeOf code left.start right.stop

/-- The run is a piece alone, or its span fits the budget. -/
def Fits (run : Run) : Prop :=
  run.others = [] ∨ splitter.sizeOf code run.first.start run.last.stop ≤ splitter.budget

/-- The chunk that a run gives: a piece alone as it is, and the span of several. -/
def chunkOfRun (run : Run) : Chunk :=
  if run.others = [] then run.first
  else
    { start := run.first.start
      stop := run.last.stop
      startRow := run.first.startRow
      stopRow := run.stopRow
      size := splitter.sizeOf code run.first.start run.last.stop }

/-- The pieces are cut into runs that fit. -/
structure Partition (pieces : List Chunk) (runs : List Run) : Prop where
  whole : runs.flatMap Run.pieces = pieces
  fits : ∀ run ∈ runs, splitter.Fits code run

variable {splitter code}

theorem sizeOf_mono {low start stop high : Nat} (lowBoundary : Boundary code low)
    (startBoundary : Boundary code start) (stopBoundary : Boundary code stop)
    (before : low ≤ start) (order : start ≤ stop) (after : stop ≤ high) :
    splitter.sizeOf code start stop ≤ splitter.sizeOf code low high :=
  weight_mono splitter.measure lowBoundary startBoundary stopBoundary before order after

/-! ## The ends of what joining gives -/

variable (splitter) in
/-- The first chunk begins where the first piece does and takes all of it in. -/
theorem mergeInto_head (rest : List Chunk) : ∀ {current : Chunk}, Laid code (current :: rest) →
    ∃ first others, splitter.mergeInto code current rest = first :: others ∧
      first.start = current.start ∧ current.stop ≤ first.stop := by
  induction rest with
  | nil => exact fun {current} _ => ⟨current, [], rfl, rfl, Nat.le_refl _⟩
  | cons piece rest ih =>
      intro current laid
      rw [mergeInto]
      split
      · obtain ⟨first, others, result, starts, ends⟩ := ih laid.join
        have onward : current.stop ≤ piece.stop :=
          Nat.le_trans laid.order.2.2.1 laid.order.2.2.2.1
        exact ⟨first, others, result, starts, Nat.le_trans onward ends⟩
      · exact ⟨current, _, rfl, rfl, Nat.le_refl _⟩

variable (splitter) in
/-- The last chunk ends where the last piece does and takes all of it in. -/
theorem merge_last {front : List Chunk} {last : Chunk} (laid : Laid code (front ++ [last])) :
    ∃ closed opened, splitter.merge code (front ++ [last]) = closed ++ [opened] ∧
      opened.stop = last.stop ∧ opened.start ≤ last.start ∧ Boundary code opened.start := by
  have lastAligned := laid.aligned last (by simp)
  rcases List.eq_nil_or_concat (splitter.merge code front) with nothing | ⟨closed, opened, reached⟩
  · cases front with
    | nil => exact ⟨[], last, rfl, rfl, Nat.le_refl _, lastAligned.1⟩
    | cons first front => exact absurd nothing (splitter.mergeInto_ne_nil code front first)
  · rw [List.concat_eq_append] at reached
    rw [splitter.merge_append code reached, mergeInto]
    split
    · obtain ⟨middle, frontOrder, lastOrder⟩ := laid.order.split
      have among : opened ∈ splitter.merge code front := by rw [reached]; simp
      have bounds := (splitter.merge_inOrder code frontOrder).bounds among
      obtain ⟨⟨piece, member, same⟩, _⟩ := splitter.merge_ends code frontOrder opened among
      refine ⟨closed, splitter.join code opened last, rfl, rfl, ?_, ?_⟩
      · exact Nat.le_trans (Nat.le_trans bounds.2.1 bounds.2.2) lastOrder.1
      · exact same ▸ (laid.left.aligned piece member).1
    · exact ⟨closed ++ [opened], last, by simp [mergeInto], rfl, Nat.le_refl _, lastAligned.1⟩

/-! ## Neighbours do not fit together -/

theorem mergeInto_full (rest : List Chunk) : ∀ {current : Chunk}, Laid code (current :: rest) →
    splitter.Full code (splitter.mergeInto code current rest) := by
  induction rest with
  | nil => exact fun _ => .singleton _
  | cons piece rest ih =>
      intro current laid
      rw [mergeInto]
      split
      · exact ih laid.join
      · rename_i tooLarge
        obtain ⟨first, others, result, starts, ends⟩ := mergeInto_head splitter rest laid.tail
        have full := ih laid.tail
        rw [result] at full ⊢
        refine List.isChain_cons_cons.mpr ⟨?_, full⟩
        -- the chunk behind ends no earlier than the piece that did not fit
        have grows : splitter.sizeOf code current.start piece.stop ≤
            splitter.sizeOf code current.start first.stop := by
          have aligned := (laid.aligned current List.mem_cons_self).1
          exact sizeOf_mono aligned aligned (laid.tail.aligned piece List.mem_cons_self).2
            (Nat.le_refl _) (Nat.le_trans laid.start_le laid.tail.order.2.1) ends
        exact Nat.lt_of_lt_of_le (Nat.lt_of_not_le tooLarge) grows

theorem merge_full {pieces : List Chunk} (laid : Laid code pieces) :
    splitter.Full code (splitter.merge code pieces) := by
  cases pieces with
  | nil => exact .nil
  | cons first rest => exact mergeInto_full rest laid

/-- Where no neighbours fit together nothing is joined. -/
theorem mergeInto_of_full (rest : List Chunk) : ∀ {current : Chunk},
    splitter.Full code (current :: rest) →
      splitter.mergeInto code current rest = current :: rest := by
  induction rest with
  | nil => exact fun _ => rfl
  | cons piece rest ih =>
      intro current full
      obtain ⟨tooLarge, behind⟩ := List.isChain_cons_cons.mp full
      rw [mergeInto, if_neg (Nat.not_le_of_lt tooLarge), ih behind]

theorem merge_of_full {chunks : List Chunk} (full : splitter.Full code chunks) :
    splitter.merge code chunks = chunks := by
  cases chunks with
  | nil => rfl
  | cons first rest => exact mergeInto_of_full rest full

/-! ## Runs -/

theorem start_chunkOfRun (run : Run) :
    (splitter.chunkOfRun code run).start = run.first.start := by
  unfold chunkOfRun
  split <;> rfl

theorem startRow_chunkOfRun (run : Run) :
    (splitter.chunkOfRun code run).startRow = run.first.startRow := by
  unfold chunkOfRun
  split <;> rfl

theorem stopRow_chunkOfRun (run : Run) :
    (splitter.chunkOfRun code run).stopRow = run.stopRow := by
  unfold chunkOfRun
  split
  · rename_i alone
    rw [Run.stopRow, alone, List.foldl_nil]
  · rfl

/-- A piece that is joined to the chunk of a run makes the run longer. -/
theorem join_chunkOfRun (run : Run) (piece : Chunk) :
    splitter.join code (splitter.chunkOfRun code run) piece =
      splitter.chunkOfRun code ⟨run.first, run.others ++ [piece]⟩ := by
  have several : run.others ++ [piece] ≠ [] := List.append_ne_nil_of_right_ne_nil _ (by simp)
  rw [join, start_chunkOfRun, startRow_chunkOfRun, stopRow_chunkOfRun, chunkOfRun, if_neg several]
  simp [Run.last, Run.stopRow]

/-- Joining cuts the pieces into runs that fit, and gives their chunks. -/
theorem mergeInto_eq_runs (rest : List Chunk) : ∀ run : Run, splitter.Fits code run →
    ∃ runs, splitter.Partition code (run.pieces ++ rest) runs ∧
      splitter.mergeInto code (splitter.chunkOfRun code run) rest =
        runs.map (splitter.chunkOfRun code) := by
  induction rest with
  | nil =>
      intro run fits
      exact ⟨[run], ⟨by simp, by simpa using fits⟩, rfl⟩
  | cons piece rest ih =>
      intro run fits
      rw [mergeInto, start_chunkOfRun]
      split
      · rename_i within
        have longer : splitter.Fits code ⟨run.first, run.others ++ [piece]⟩ :=
          Or.inr (by simpa [Run.last] using within)
        obtain ⟨runs, parts, result⟩ := ih ⟨run.first, run.others ++ [piece]⟩ longer
        refine ⟨runs, ⟨?_, parts.fits⟩, ?_⟩
        · rw [parts.whole]
          simp [Run.pieces]
        · rw [join_chunkOfRun, result]
      · obtain ⟨runs, parts, result⟩ := ih ⟨piece, []⟩ (Or.inl rfl)
        refine ⟨run :: runs, ⟨?_, List.forall_mem_cons.mpr ⟨fits, parts.fits⟩⟩, ?_⟩
        · rw [List.flatMap_cons, parts.whole]
          rfl
        · rw [List.map_cons, ← result]
          rfl

theorem merge_eq_runs (splitter : Splitter) (code : List UInt8) (pieces : List Chunk) :
    ∃ runs, splitter.Partition code pieces runs ∧
      splitter.merge code pieces = runs.map (splitter.chunkOfRun code) := by
  cases pieces with
  | nil => exact ⟨[], ⟨rfl, by simp⟩, rfl⟩
  | cons first rest => exact mergeInto_eq_runs rest ⟨first, []⟩ (Or.inl rfl)

/-! ## No fewer runs -/

variable (splitter) in
/-- Joining from a later start gives no more chunks, and at most one less. -/
theorem length_mergeInto_le (rest : List Chunk) : ∀ earlier later : Chunk,
    Boundary code earlier.start → earlier.start ≤ later.start → Laid code (later :: rest) →
      (splitter.mergeInto code later rest).length ≤
        (splitter.mergeInto code earlier rest).length ∧
      (splitter.mergeInto code earlier rest).length ≤
        (splitter.mergeInto code later rest).length + 1 := by
  induction rest with
  | nil => exact fun _ _ _ _ _ => ⟨Nat.le_refl 1, Nat.le_succ 1⟩
  | cons piece rest ih =>
      intro earlier later boundary before laid
      have lighter : splitter.sizeOf code later.start piece.stop ≤
          splitter.sizeOf code earlier.start piece.stop :=
        sizeOf_mono boundary (laid.aligned later List.mem_cons_self).1
          (laid.tail.aligned piece List.mem_cons_self).2 before
          (Nat.le_trans laid.start_le laid.tail.order.2.1) (Nat.le_refl _)
      rw [mergeInto, mergeInto]
      by_cases laterFits : splitter.sizeOf code later.start piece.stop ≤ splitter.budget
      · rw [if_pos laterFits]
        split
        · exact ih (splitter.join code earlier piece) _ boundary before laid.join
        · -- only the later one goes on, and the next piece begins behind it
          have behind := ih (splitter.join code later piece) piece
            (laid.aligned later List.mem_cons_self).1 laid.start_le laid.tail
          rw [List.length_cons]
          omega
      · have earlierFails : ¬ splitter.sizeOf code earlier.start piece.stop ≤ splitter.budget := by
          omega
        rw [if_neg laterFits, if_neg earlierFails]
        exact ⟨Nat.le_refl _, Nat.le_succ _⟩

variable (splitter) in
/-- Pieces that are joined in one go give no more chunks than in two goes. -/
theorem length_merge_append_le {front back : List Chunk} (laid : Laid code (front ++ back)) :
    (splitter.merge code (front ++ back)).length ≤
      (splitter.merge code front).length + (splitter.merge code back).length := by
  rcases List.eq_nil_or_concat front with rfl | ⟨before, last, rfl⟩
  · simp
  · rw [List.concat_eq_append] at laid ⊢
    obtain ⟨closed, opened, reached, _, starts, boundary⟩ := merge_last splitter laid.left
    rw [splitter.merge_append code reached, reached, List.length_append, List.length_append]
    cases back with
    | nil => exact Nat.le_refl _
    | cons piece rest =>
        rw [List.append_assoc] at laid
        have neighbours : Laid code (last :: piece :: rest) := laid.right
        have ahead : opened.start ≤ piece.start := Nat.le_trans starts neighbours.start_le
        have bounds := length_mergeInto_le splitter rest (splitter.join code opened piece) piece
          boundary ahead neighbours.tail
        rw [mergeInto, merge]
        split
        · rw [List.length_singleton]
          omega
        · rw [List.length_singleton, List.length_cons]
          omega

/-- Pieces that all fit to the first become one chunk. -/
theorem length_mergeInto_of_fits (rest : List Chunk) : ∀ current : Chunk,
    (∀ piece ∈ rest, splitter.sizeOf code current.start piece.stop ≤ splitter.budget) →
      (splitter.mergeInto code current rest).length = 1 := by
  induction rest with
  | nil => exact fun _ _ => rfl
  | cons piece rest ih =>
      intro current fits
      obtain ⟨here, behind⟩ := List.forall_mem_cons.mp fits
      rw [mergeInto, if_pos here]
      exact ih (splitter.join code current piece) behind

theorem length_merge_run {run : Run} (laid : Laid code run.pieces)
    (fits : splitter.Fits code run) : (splitter.merge code run.pieces).length = 1 := by
  obtain ⟨first, others⟩ := run
  rcases List.eq_nil_or_concat others with rfl | ⟨middle, last, rfl⟩
  · rfl
  · rw [List.concat_eq_append] at laid fits ⊢
    have within : splitter.sizeOf code first.start last.stop ≤ splitter.budget := by
      simpa [Fits, Run.last] using fits
    refine length_mergeInto_of_fits (middle ++ [last]) first ?_
    intro piece among
    -- a piece of the run ends no later than its last one, and its span is part of the run's
    have inOrder : InOrder first.stop code.length (middle ++ [last]) := laid.order.2.2
    have ends : piece.stop ≤ last.stop := by
      rcases List.mem_append.mp among with before | same
      · obtain ⟨between, front, back⟩ := inOrder.split
        exact Nat.le_trans (front.bounds before).2.2 (Nat.le_trans back.1 back.2.1)
      · exact Nat.le_of_eq (congrArg Chunk.stop (List.mem_singleton.mp same))
    have boundary := (laid.aligned first List.mem_cons_self).1
    have bounds := inOrder.bounds among
    have forward : first.start ≤ piece.stop :=
      Nat.le_trans laid.order.2.1 (Nat.le_trans bounds.1 bounds.2.1)
    exact Nat.le_trans (sizeOf_mono boundary boundary
      (laid.aligned piece (List.mem_cons_of_mem _ among)).2 (Nat.le_refl _) forward ends) within

/-- Each run costs one chunk at most. -/
theorem length_merge_le_runs (runs : List Run) : Laid code (runs.flatMap Run.pieces) →
    (∀ run ∈ runs, splitter.Fits code run) →
      (splitter.merge code (runs.flatMap Run.pieces)).length ≤ runs.length := by
  induction runs with
  | nil => exact fun _ _ => Nat.le_refl 0
  | cons run rest ih =>
      intro laid fits
      obtain ⟨here, behind⟩ := List.forall_mem_cons.mp fits
      rw [List.flatMap_cons] at laid ⊢
      have both := length_merge_append_le splitter laid
      have own := length_merge_run laid.left here
      have others := ih laid.right behind
      rw [List.length_cons]
      omega

/-- Joining cuts pieces that stand in order into runs that fit the budget, and gives the chunk of each
run.  No other such cut has fewer runs, and joining again changes nothing. -/
theorem merge_fewest (splitter : Splitter) (code : List UInt8) (pieces : List Chunk)
    (laid : Laid code pieces) :
    (∃ runs, splitter.Partition code pieces runs ∧
      splitter.merge code pieces = runs.map (splitter.chunkOfRun code)) ∧
    (∀ runs, splitter.Partition code pieces runs →
      (splitter.merge code pieces).length ≤ runs.length) ∧
    splitter.merge code (splitter.merge code pieces) = splitter.merge code pieces := by
  refine ⟨merge_eq_runs splitter code pieces, ?_, merge_of_full (merge_full laid)⟩
  rintro runs ⟨rfl, fits⟩
  exact length_merge_le_runs runs laid fits

/-- The buffer `a b c d e f g`. -/
def sevenWords : List UInt8 :=
  [0x61, 0x20, 0x62, 0x20, 0x63, 0x20, 0x64, 0x20, 0x65, 0x20, 0x66, 0x20, 0x67]

/-- Three words in pieces of their own, and behind the first of them a piece with four. -/
def unevenPieces : List Chunk :=
  [⟨0, 1, 0, 1, 1⟩, ⟨2, 9, 0, 1, 4⟩, ⟨10, 11, 0, 1, 1⟩, ⟨12, 13, 0, 1, 1⟩]

def threeWords : Splitter := ⟨.words, 3, by decide⟩

theorem unevenPieces_fewest : Laid sevenWords unevenPieces ∧
    (∃ runs, threeWords.Partition sevenWords unevenPieces runs ∧
      threeWords.merge sevenWords unevenPieces = runs.map (threeWords.chunkOfRun sevenWords)) ∧
    (∀ runs, threeWords.Partition sevenWords unevenPieces runs →
      (threeWords.merge sevenWords unevenPieces).length ≤ runs.length) ∧
    threeWords.merge sevenWords (threeWords.merge sevenWords unevenPieces) =
      threeWords.merge sevenWords unevenPieces := by
  have laid : Laid sevenWords unevenPieces := by decide
  exact ⟨laid, merge_fewest threeWords sevenWords unevenPieces laid⟩

/-- A piece over the budget stays alone. -/
example : threeWords.merge sevenWords unevenPieces =
    [⟨0, 1, 0, 1, 1⟩, ⟨2, 9, 0, 1, 4⟩, ⟨10, 13, 0, 1, 2⟩] := by decide

end Splitter

end SourceIndex
