import SourceIndex.Proofs.Text.Boundaries
import SourceIndex.Proofs.Text.Words

/-! # Weights of spans

A span between boundaries weighs at least what any span inside it weighs, whatever else it takes
in, and cutting it at a boundary loses no weight and adds one word at most
(`weight_monotone_additive`). -/
set_option autoImplicit false
namespace SourceIndex

open Utf8 (Boundary CharacterAt)

theorem Measure.weigh_le_append_left (measure : Measure) (front back : List Char) :
    measure.weigh front ≤ measure.weigh (front ++ back) := by
  cases measure with
  | words => exact Text.wordCount_le_append_left front back
  | characters => simp [Measure.weigh]

theorem Measure.weigh_le_append_right (measure : Measure) (front back : List Char) :
    measure.weigh back ≤ measure.weigh (front ++ back) := by
  cases measure with
  | words => exact Text.wordCount_le_append_right front back
  | characters => simp [Measure.weigh]

theorem Measure.weigh_append_le (measure : Measure) (front back : List Char) :
    measure.weigh (front ++ back) ≤ measure.weigh front + measure.weigh back := by
  cases measure with
  | words => exact Text.wordCount_append_le front back
  | characters => exact Nat.le_of_eq List.length_append

theorem Measure.weigh_add_le (measure : Measure) (front back : List Char) :
    measure.weigh front + measure.weigh back ≤ measure.weigh (front ++ back) + 1 := by
  cases measure with
  | words => exact Text.wordCount_add_le front back
  | characters => simp [Measure.weigh]

theorem Measure.weigh_nil (measure : Measure) : measure.weigh [] = 0 := by
  cases measure <;> rfl

theorem Measure.weigh_pos (measure : Measure) {c : Char} (word : Text.isBlank c = false) :
    0 < measure.weigh [c] := by
  cases measure with
  | words =>
      apply Nat.pos_of_ne_zero
      intro none
      have blank := (Text.wordCount_eq_zero_iff [c]).mp none
      simp [Text.allBlank, word] at blank
  | characters => simp [Measure.weigh]

theorem Measure.weigh_le_length (measure : Measure) (text : List Char) :
    measure.weigh text ≤ text.length := by
  cases measure with
  | words => exact Text.wordCount_le_length text
  | characters => exact Nat.le_refl _

section
variable (measure : Measure) {code : List UInt8}

/-- A span weighs no more than it has bytes. -/
theorem weight_le (start stop : Nat) : weight measure code start stop ≤ stop := by
  have text := measure.weigh_le_length (Utf8.decode (slice code start stop))
  have bytes := Utf8.length_decode_le (slice code start stop)
  have inside : (slice code start stop).length ≤ stop - start := List.length_take_le ..
  rw [weight]
  omega

theorem weight_mono {low start stop high : Nat} (lowBoundary : Boundary code low)
    (startBoundary : Boundary code start) (stopBoundary : Boundary code stop)
    (before : low ≤ start) (order : start ≤ stop) (after : stop ≤ high) :
    weight measure code start stop ≤ weight measure code low high := by
  have ahead := Utf8.decode_slice_append lowBoundary startBoundary before
    (Nat.le_trans order after)
  have behind := Utf8.decode_slice_append startBoundary stopBoundary order after
  simp only [weight]
  rw [ahead, behind]
  exact Nat.le_trans (measure.weigh_le_append_left _ _) (measure.weigh_le_append_right _ _)

/-- Cutting a span at a boundary loses no weight. -/
theorem weight_le_add {low middle high : Nat} (lowBoundary : Boundary code low)
    (middleBoundary : Boundary code middle) (first : low ≤ middle) (second : middle ≤ high) :
    weight measure code low high ≤
      weight measure code low middle + weight measure code middle high := by
  simp only [weight]
  rw [Utf8.decode_slice_append lowBoundary middleBoundary first second]
  exact measure.weigh_append_le _ _

/-- Cutting a span at a boundary adds one word at most, the one that is cut. -/
theorem weight_add_le {low middle high : Nat} (lowBoundary : Boundary code low)
    (middleBoundary : Boundary code middle) (first : low ≤ middle) (second : middle ≤ high) :
    weight measure code low middle + weight measure code middle high ≤
      weight measure code low high + 1 := by
  simp only [weight]
  rw [Utf8.decode_slice_append lowBoundary middleBoundary first second]
  exact measure.weigh_add_le _ _

theorem weight_eq_zero_of_le {start stop : Nat} (backwards : stop ≤ start) :
    weight measure code start stop = 0 := by
  simp [weight, slice, Nat.sub_eq_zero_of_le backwards, Measure.weigh_nil]

theorem lt_of_weight_pos {start stop : Nat} (heavy : 0 < weight measure code start stop) :
    start < stop := by
  apply Nat.lt_of_not_le
  intro backwards
  rw [weight_eq_zero_of_le measure backwards] at heavy
  exact absurd heavy (Nat.lt_irrefl 0)

theorem weight_pos_of_character {low start stop high : Nat} {c : Char}
    (lowBoundary : Boundary code low) (character : CharacterAt code start stop c)
    (word : Text.isBlank c = false) (before : low ≤ start) (after : stop ≤ high) :
    0 < weight measure code low high := by
  have inside := weight_mono measure lowBoundary character.startBoundary character.stopBoundary
    before (Nat.le_of_lt character.lt) after
  have heavy := measure.weigh_pos word
  rw [weight, character.reads] at inside
  exact Nat.lt_of_lt_of_le heavy inside

end

/-- Weights grow with their spans, and those of two neighbouring spans add up to the weight of both
together or to one more. -/
theorem weight_monotone_additive (measure : Measure) (code : List UInt8)
    {low start stop high : Nat} (lowBoundary : Boundary code low)
    (startBoundary : Boundary code start) (stopBoundary : Boundary code stop)
    (before : low ≤ start) (order : start ≤ stop) (after : stop ≤ high) :
    weight measure code start stop ≤ weight measure code low high ∧
      weight measure code low stop ≤
        weight measure code low start + weight measure code start stop ∧
      weight measure code low start + weight measure code start stop ≤
        weight measure code low stop + 1 := by
  refine ⟨?grows, ?covers, ?adds⟩
  case grows => exact weight_mono measure lowBoundary startBoundary stopBoundary before order after
  case covers => exact weight_le_add measure lowBoundary startBoundary before order
  case adds => exact weight_add_le measure lowBoundary startBoundary before order

/-- The letter `é`, two bytes that want a third one, a blank of two bytes, and `xy`. -/
def brokenWords : List UInt8 := [0xC3, 0xA9, 0xE2, 0x82, 0xC2, 0xA0, 0x78, 0x79]

theorem brokenWords_monotone_additive :
    Boundary brokenWords 0 ∧ Boundary brokenWords 2 ∧ Boundary brokenWords 7 ∧
      weight .words brokenWords 2 7 ≤ weight .words brokenWords 0 8 ∧
      weight .words brokenWords 0 7 ≤
        weight .words brokenWords 0 2 + weight .words brokenWords 2 7 ∧
      weight .words brokenWords 0 2 + weight .words brokenWords 2 7 ≤
        weight .words brokenWords 0 7 + 1 := by
  have lowBoundary : Boundary brokenWords 0 := by decide
  have startBoundary : Boundary brokenWords 2 := by decide
  have stopBoundary : Boundary brokenWords 7 := by decide
  exact ⟨lowBoundary, startBoundary, stopBoundary,
    weight_monotone_additive .words brokenWords lowBoundary startBoundary stopBoundary
      (by decide) (by decide) (by decide)⟩

/-- The cut behind the first letter falls inside a word. -/
example : weight .words brokenWords 0 2 = 1 ∧ weight .words brokenWords 2 7 = 2 ∧
    weight .words brokenWords 0 7 = 2 := by decide

/-- Inside a character this fails: each half of a blank reads as a word. -/
example : ¬ Boundary brokenWords 5 ∧ weight .words brokenWords 4 6 = 0 ∧
    weight .words brokenWords 4 5 = 1 ∧ weight .words brokenWords 5 6 = 1 := by decide

end SourceIndex
