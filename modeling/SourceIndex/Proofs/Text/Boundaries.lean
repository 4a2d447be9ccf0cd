import SourceIndex.Chunk

/-! # Characters of a buffer and their boundaries

A buffer is read in one pass, and what a cut leaves on its two sides reads as the whole only where
no character is open.  These offsets are the boundaries.  Between boundaries the text of a span is
the text of its parts (`decode_slice_append`), each character of the whole text has its own bytes
between two boundaries (`exists_characterAt`), and no boundary falls inside them
(`CharacterAt.outside`). -/
set_option autoImplicit false
namespace SourceIndex.Utf8

/-- The reader behind a buffer. -/
def read (bytes : List UInt8) : Reader := bytes.foldl Reader.feed {}

namespace Reader

/-- The next byte goes on with the character that is being read. -/
def Continues (reader : Reader) : List UInt8 → Prop
  | [] => False
  | byte :: _ =>
    match reader.expecting with
    | none => False
    | some e => e.low ≤ byte ∧ byte ≤ e.high

instance (reader : Reader) : (bytes : List UInt8) → Decidable (reader.Continues bytes)
  | [] => isFalse id
  | byte :: _ =>
    match expecting : reader.expecting with
    | none => isFalse (by simp [Continues, expecting])
    | some e => decidable_of_iff (e.low ≤ byte ∧ byte ≤ e.high) (by simp [Continues, expecting])

/-- A reader that has read these parts before its own. -/
def behind (reader : Reader) (before : Array (Option Char)) : Reader :=
  ⟨reader.expecting, before ++ reader.parts⟩

theorem begin_behind (reader : Reader) (before : Array (Option Char)) (byte : UInt8) :
    (reader.behind before).begin byte = (reader.begin byte).behind before := by
  simp only [begin, behind]
  cases opening byte <;> simp

theorem feed_behind (reader : Reader) (before : Array (Option Char)) (byte : UInt8) :
    (reader.behind before).feed byte = (reader.feed byte).behind before := by
  cases expecting : reader.expecting with
  | none =>
      have same : (reader.behind before).expecting = none := expecting
      simp only [feed, same, expecting, begin_behind]
  | some e =>
      have same : (reader.behind before).expecting = some e := expecting
      simp only [feed, same, expecting]
      split
      · split <;> simp [behind]
      · rw [← begin_behind]
        simp [behind]

theorem foldl_behind (bytes : List UInt8) : ∀ (reader : Reader) (before : Array (Option Char)),
    bytes.foldl feed (reader.behind before) = (bytes.foldl feed reader).behind before := by
  induction bytes with
  | nil => intro reader before; rfl
  | cons byte rest ih =>
      intro reader before
      simp only [List.foldl_cons, feed_behind, ih]

theorem continues_behind (reader : Reader) (before : Array (Option Char)) (bytes : List UInt8) :
    (reader.behind before).Continues bytes ↔ reader.Continues bytes := by
  cases bytes <;> exact Iff.rfl

theorem finish_behind (reader : Reader) (before : Array (Option Char)) :
    (reader.behind before).finish = before ++ reader.finish := by
  cases expecting : reader.expecting <;> simp [finish, behind, expecting]

/-- A byte that does not go on with the open character is read as the first of a buffer. -/
theorem feed_of_not_continues {reader : Reader} {byte : UInt8} {rest : List UInt8}
    (refused : ¬ reader.Continues (byte :: rest)) :
    reader.feed byte = (feed {} byte).behind reader.finish := by
  have fresh : feed {} byte = begin {} byte := rfl
  rw [fresh, ← begin_behind]
  cases expecting : reader.expecting with
  | none => simp [feed, expecting, finish, behind, begin]
  | some e =>
      simp only [Continues, expecting] at refused
      simp [feed, expecting, finish, behind, refused]

theorem foldl_of_not_continues {reader : Reader} {bytes : List UInt8} (nonempty : bytes ≠ [])
    (refused : ¬ reader.Continues bytes) :
    bytes.foldl feed reader = (read bytes).behind reader.finish := by
  cases bytes with
  | nil => exact absurd rfl nonempty
  | cons byte rest =>
      rw [List.foldl_cons, feed_of_not_continues refused, foldl_behind]
      rfl

end Reader

/-- Where the second buffer does not go on with an open character of the first, it is read as if
nothing stood in front of it. -/
theorem read_append {front back : List UInt8} (nonempty : back ≠ [])
    (refused : ¬ (read front).Continues back) :
    read (front ++ back) = (read back).behind (read front).finish := by
  rw [read, List.foldl_append]
  exact Reader.foldl_of_not_continues nonempty refused

theorem parts_append {front back : List UInt8} (refused : ¬ (read front).Continues back) :
    parts (front ++ back) = parts front ++ parts back := by
  by_cases nothing : back = []
  · subst nothing
    simp [parts, Reader.finish]
  · have whole : parts (front ++ back) = (read (front ++ back)).finish.toList := rfl
    rw [whole, read_append nothing refused, Reader.finish_behind, Array.toList_append]
    rfl

theorem decode_append {front back : List UInt8} (refused : ¬ (read front).Continues back) :
    decode (front ++ back) = decode front ++ decode back := by
  simp only [decode, parts_append refused, List.map_append]

/-- The offset stands between two characters of the buffer, or at one of its ends: the byte behind
it does not go on with a character that is open there. -/
def Boundary (code : List UInt8) (offset : Nat) : Prop :=
  offset ≤ code.length ∧ ¬ (read (code.take offset)).Continues (code.drop offset)

instance (code : List UInt8) (offset : Nat) : Decidable (Boundary code offset) :=
  inferInstanceAs (Decidable (_ ∧ ¬ _))

theorem boundary_zero (code : List UInt8) : Boundary code 0 := by
  refine ⟨Nat.zero_le _, ?_⟩
  cases code <;> simp [read, Reader.Continues]

theorem boundary_length (code : List UInt8) : Boundary code code.length := by
  refine ⟨Nat.le_refl _, ?_⟩
  simp [Reader.Continues]

theorem Reader.not_continues_of_prefix {reader : Reader} {bytes more : List UInt8}
    (refused : ¬ reader.Continues (bytes ++ more)) : ¬ reader.Continues bytes := by
  cases bytes with
  | nil => exact id
  | cons byte rest => exact refused

/-- Where nothing is open in front, reading on is reading afresh. -/
theorem not_continues_middle {front middle back : List UInt8}
    (fresh : ¬ (read front).Continues (middle ++ back))
    (refused : ¬ (read (front ++ middle)).Continues back) : ¬ (read middle).Continues back := by
  cases middle with
  | nil => cases back <;> simp [read, Reader.Continues]
  | cons byte rest =>
      rw [read_append (List.cons_ne_nil _ _) (Reader.not_continues_of_prefix fresh),
        Reader.continues_behind] at refused
      exact refused

/-! ## Slices between boundaries -/

theorem slice_append (code : List UInt8) {low middle high : Nat} (first : low ≤ middle)
    (second : middle ≤ high) :
    slice code low high = slice code low middle ++ slice code middle high := by
  have lengths : high - low = (middle - low) + (high - middle) := by omega
  have place : low + (middle - low) = middle := by omega
  simp only [slice]
  rw [lengths, List.take_add, List.drop_drop, place]

theorem take_append_slice (code : List UInt8) {low high : Nat} (order : low ≤ high) :
    code.take high = code.take low ++ slice code low high := by
  have whole := slice_append code (Nat.zero_le low) order
  simpa [slice] using whole

theorem slice_append_drop (code : List UInt8) {low high : Nat} (order : low ≤ high) :
    code.drop low = slice code low high ++ code.drop high := by
  have place : low + (high - low) = high := by omega
  calc code.drop low
      = (code.drop low).take (high - low) ++ (code.drop low).drop (high - low) :=
        (List.take_append_drop ..).symm
    _ = slice code low high ++ code.drop high := by rw [List.drop_drop, place]; rfl

/-- Between boundaries the text of a span is the text of its parts. -/
theorem decode_slice_append {code : List UInt8} {low middle high : Nat}
    (lowBoundary : Boundary code low) (middleBoundary : Boundary code middle)
    (first : low ≤ middle) (second : middle ≤ high) :
    decode (slice code low high) =
      decode (slice code low middle) ++ decode (slice code middle high) := by
  rw [slice_append code first second]
  apply decode_append
  have fresh := lowBoundary.2
  have refused := middleBoundary.2
  rw [slice_append_drop code first] at fresh
  rw [take_append_slice code first] at refused
  have openThere := not_continues_middle fresh refused
  rw [slice_append_drop code second] at openThere
  exact Reader.not_continues_of_prefix openThere

/-! ## Characters and their bytes -/

theorem Reader.size_finish_feed_of_continues {reader : Reader} {byte : UInt8} {rest : List UInt8}
    (goesOn : reader.Continues (byte :: rest)) :
    (reader.feed byte).finish.size = reader.finish.size := by
  cases expecting : reader.expecting with
  | none => simp [Continues, expecting] at goesOn
  | some e =>
      simp only [Continues, expecting] at goesOn
      simp only [feed, expecting, goesOn, and_self, if_true]
      split <;> simp [finish, expecting]

theorem Reader.size_finish_feed_of_not_continues {reader : Reader} {byte : UInt8}
    {rest : List UInt8} (refused : ¬ reader.Continues (byte :: rest)) :
    (reader.feed byte).finish.size = reader.finish.size + 1 := by
  have one : (feed {} byte).finish.size = 1 := by
    change (begin {} byte).finish.size = 1
    unfold begin
    cases opening byte <;> simp [finish]
  rw [feed_of_not_continues refused, finish_behind, Array.size_append, one]

theorem length_decode (bytes : List UInt8) : (decode bytes).length = (read bytes).finish.size := by
  simp [decode, parts, read]

theorem read_concat (bytes : List UInt8) (byte : UInt8) :
    read (bytes ++ [byte]) = (read bytes).feed byte := by
  simp [read]

theorem length_decode_le_append (front back : List UInt8) :
    (decode front).length ≤ (decode (front ++ back)).length := by
  induction back generalizing front with
  | nil => simp
  | cons byte rest ih =>
      have step : (decode front).length ≤ (decode (front ++ [byte])).length := by
        rw [length_decode, length_decode, read_concat]
        by_cases goesOn : (read front).Continues [byte]
        · exact Nat.le_of_eq (Reader.size_finish_feed_of_continues goesOn).symm
        · rw [Reader.size_finish_feed_of_not_continues goesOn]
          omega
      have whole := ih (front ++ [byte])
      rw [List.append_assoc] at whole
      exact Nat.le_trans step whole

@[simp] theorem decode_nil : decode [] = [] := rfl

/-- A byte begins one character at most. -/
theorem length_decode_le (bytes : List UInt8) : (decode bytes).length ≤ bytes.length := by
  have each (rest : List UInt8) : ∀ front : List UInt8,
      (decode (front ++ rest)).length ≤ (decode front).length + rest.length := by
    induction rest with
    | nil => simp
    | cons byte rest ih =>
        intro front
        have step : (decode (front ++ [byte])).length ≤ (decode front).length + 1 := by
          rw [length_decode, length_decode, read_concat]
          by_cases goesOn : (read front).Continues [byte]
          · rw [Reader.size_finish_feed_of_continues goesOn]
            omega
          · exact Nat.le_of_eq (Reader.size_finish_feed_of_not_continues goesOn)
        have behind := ih (front ++ [byte])
        rw [List.append_assoc] at behind
        rw [List.length_cons]
        exact Nat.le_trans behind (by omega)
  have all := each bytes []
  rw [List.nil_append, decode_nil, List.length_nil, Nat.zero_add] at all
  exact all

theorem length_decode_singleton (byte : UInt8) : (decode [byte]).length = 1 := by
  have refused : ¬ (read []).Continues [byte] := by simp [read, Reader.Continues]
  rw [length_decode, ← List.nil_append [byte], read_concat,
    Reader.size_finish_feed_of_not_continues refused]
  rfl

theorem decode_ne_nil {bytes : List UInt8} (nonempty : bytes ≠ []) : decode bytes ≠ [] := by
  cases bytes with
  | nil => exact absurd rfl nonempty
  | cons byte rest =>
      have longer := length_decode_le_append [byte] rest
      rw [length_decode_singleton] at longer
      exact List.ne_nil_of_length_pos longer

theorem decode_eq_nil {bytes : List UInt8} : decode bytes = [] ↔ bytes = [] := by
  constructor
  · intro empty
    apply Classical.byContradiction
    intro nonempty
    exact decode_ne_nil nonempty empty
  · intro empty
    rw [empty, decode_nil]

theorem slice_ne_nil {code : List UInt8} {low high : Nat} (order : low < high)
    (inside : high ≤ code.length) : slice code low high ≠ [] := by
  apply List.ne_nil_of_length_pos
  simp only [slice, List.length_take, List.length_drop]
  omega

@[simp] theorem slice_self (code : List UInt8) (offset : Nat) : slice code offset offset = [] := by
  simp [slice]

/-- The character stands for the bytes from `start` up to but not including `stop`. -/
structure CharacterAt (code : List UInt8) (start stop : Nat) (c : Char) : Prop where
  startBoundary : Boundary code start
  stopBoundary : Boundary code stop
  reads : decode (slice code start stop) = [c]

theorem CharacterAt.lt {code : List UInt8} {start stop : Nat} {c : Char}
    (character : CharacterAt code start stop c) : start < stop := by
  apply Nat.lt_of_not_le
  intro backwards
  have empty : slice code start stop = [] := by
    simp only [slice, Nat.sub_eq_zero_of_le backwards, List.take_zero]
  have reads := character.reads
  rw [empty] at reads
  exact absurd reads (by simp)

/-- No boundary falls inside a character. -/
theorem CharacterAt.outside {code : List UInt8} {start stop offset : Nat} {c : Char}
    (character : CharacterAt code start stop c) (boundary : Boundary code offset) :
    offset ≤ start ∨ stop ≤ offset := by
  apply Classical.byContradiction
  intro inside
  have after : start < offset := by omega
  have before : offset < stop := by omega
  have text := decode_slice_append character.startBoundary boundary
    (Nat.le_of_lt after) (Nat.le_of_lt before)
  have first := decode_ne_nil (slice_ne_nil after boundary.1)
  have second := decode_ne_nil (slice_ne_nil before character.stopBoundary.1)
  have count := congrArg List.length text
  rw [character.reads, List.length_append, List.length_singleton] at count
  have firstCount := List.length_pos_iff.mpr first
  have secondCount := List.length_pos_iff.mpr second
  omega

theorem slice_succ {code : List UInt8} {low high : Nat} (order : low ≤ high)
    (inside : high < code.length) :
    slice code low (high + 1) = slice code low high ++ [code[high]] := by
  rw [slice_append code order (Nat.le_succ high)]
  simp [slice, List.take_one, List.head?_drop, inside]

/-- Behind a boundary the text does not grow at an offset that is none. -/
theorem length_decode_slice_succ {code : List UInt8} {low high : Nat} (boundary : Boundary code low)
    (order : low < high) (inside : high < code.length) (within : ¬ Boundary code high) :
    (decode (slice code low (high + 1))).length = (decode (slice code low high)).length := by
  have goesOn : (read (code.take high)).Continues (code.drop high) := by
    apply Classical.byContradiction
    intro refused
    exact within ⟨Nat.le_of_lt inside, refused⟩
  have fresh := boundary.2
  rw [slice_append_drop code (Nat.le_of_lt order)] at fresh
  rw [take_append_slice code (Nat.le_of_lt order),
    read_append (slice_ne_nil order (Nat.le_of_lt inside)) (Reader.not_continues_of_prefix fresh),
    Reader.continues_behind, List.drop_eq_getElem_cons inside] at goesOn
  rw [slice_succ (Nat.le_of_lt order) inside, length_decode, length_decode, read_concat,
    Reader.size_finish_feed_of_continues goesOn]

/-- A character that has begun at a boundary ends at one. -/
theorem exists_boundary_of_single {code : List UInt8} {low high : Nat}
    (boundary : Boundary code low) (order : low < high) (inside : high ≤ code.length)
    (single : (decode (slice code low high)).length = 1) :
    ∃ stop, low < stop ∧ Boundary code stop ∧ (decode (slice code low stop)).length = 1 := by
  obtain ⟨left, total⟩ : ∃ left, high + left = code.length := ⟨code.length - high, by omega⟩
  induction left generalizing high with
  | zero =>
      have last : high = code.length := by omega
      exact ⟨high, order, last ▸ boundary_length code, single⟩
  | succ left ih =>
      by_cases found : Boundary code high
      · exact ⟨high, order, found, single⟩
      · apply ih (Nat.lt_succ_of_lt order) (by omega)
        · rw [length_decode_slice_succ boundary order (by omega) found, single]
        · omega

/-- At each boundary but the last a character begins. -/
theorem Boundary.exists_characterAt {code : List UInt8} {start : Nat} (boundary : Boundary code start)
    (inside : start < code.length) : ∃ stop c, CharacterAt code start stop c := by
  have first : slice code start (start + 1) = [code[start]] := by
    rw [slice_succ (Nat.le_refl start) inside, slice_self, List.nil_append]
  have single : (decode (slice code start (start + 1))).length = 1 := by
    rw [first, length_decode_singleton]
  obtain ⟨stop, _, stopBoundary, one⟩ :=
    exists_boundary_of_single boundary (Nat.lt_succ_self start) inside single
  obtain ⟨c, reads⟩ := List.length_eq_one_iff.mp one
  exact ⟨stop, c, boundary, stopBoundary, reads⟩

theorem decode_drop {code : List UInt8} {low high : Nat} (lowBoundary : Boundary code low)
    (highBoundary : Boundary code high) (order : low ≤ high) :
    decode (code.drop low) = decode (slice code low high) ++ decode (code.drop high) := by
  have whole (offset : Nat) : code.drop offset = slice code offset code.length := by
    simp [slice, List.take_of_length_le]
  rw [whole low, whole high]
  exact decode_slice_append lowBoundary highBoundary order highBoundary.1

/-- Each character of a text has its bytes in the buffer, and the text in front of it is the text
of the bytes in front of it. -/
theorem exists_characterAt {code : List UInt8} {c : Char} {front back : List Char}
    (text : decode code = front ++ c :: back) :
    ∃ start stop, CharacterAt code start stop c ∧ decode (slice code 0 start) = front ∧
      decode (code.drop stop) = back := by
  suffices from_boundary : ∀ (front : List Char) (low : Nat), Boundary code low →
      decode (code.drop low) = front ++ c :: back →
      ∃ start stop, low ≤ start ∧ CharacterAt code start stop c ∧
        decode (slice code low start) = front ∧ decode (code.drop stop) = back by
    obtain ⟨start, stop, _, found⟩ := from_boundary front 0 (boundary_zero code) text
    exact ⟨start, stop, found⟩
  intro front
  induction front with
  | nil =>
      intro low boundary text
      have inside : low < code.length := by
        apply Nat.lt_of_not_le
        intro past
        simp [List.drop_of_length_le past] at text
      obtain ⟨stop, d, character⟩ := boundary.exists_characterAt inside
      rw [decode_drop boundary character.stopBoundary (Nat.le_of_lt character.lt),
        character.reads] at text
      obtain ⟨rfl, rest⟩ := List.cons.inj text
      exact ⟨low, stop, Nat.le_refl low, character, by simp, rest⟩
  | cons d front ih =>
      intro low boundary text
      have inside : low < code.length := by
        apply Nat.lt_of_not_le
        intro past
        simp [List.drop_of_length_le past] at text
      obtain ⟨middle, e, character⟩ := boundary.exists_characterAt inside
      rw [decode_drop boundary character.stopBoundary (Nat.le_of_lt character.lt),
        character.reads] at text
      obtain ⟨rfl, rest⟩ := List.cons.inj text
      obtain ⟨start, stop, after, found, before, behind⟩ := ih middle character.stopBoundary rest
      refine ⟨start, stop, Nat.le_trans (Nat.le_of_lt character.lt) after, found, ?_, behind⟩
      rw [decode_slice_append boundary character.stopBoundary (Nat.le_of_lt character.lt) after,
        character.reads, before]
      rfl

end SourceIndex.Utf8
