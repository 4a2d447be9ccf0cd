import SourceIndex.Proofs.Text.Boundaries

/-! # Open characters, and where a text can be divided

A byte that goes on with an open character begins none (`Reader.Wide`), so it is a part of its own as
soon as the bytes in front of it are taken away.  Cutting a buffer inside a character thus makes its
text longer, and the text of the whole is the text of the two sides exactly at the boundaries
(`boundary_iff_decode`). -/
set_option autoImplicit false
namespace SourceIndex.Utf8

/-- What a reader waits for inside a character: a byte that begins none, and what it reads in the end
lies above the characters of one byte. -/
structure Expectation.Wide (e : Expectation) : Prop where
  low : 0x80 ≤ e.low
  high : e.high ≤ 0xBF
  bits : 2 ≤ e.bits * 64 + (e.low.toNat - 0x80)
  last : e.owed = 1 → 2 ≤ e.bits

/-- Every character that the reader may have open is a wide one. -/
def Reader.Wide (reader : Reader) : Prop := ∀ e, reader.expecting = some e → e.Wide

/-- What a byte opens is a character of that one byte or a wide one. -/
def Opening.Of (byte : UInt8) : Opening → Prop
  | .whole c => c = Char.ofNat byte.toNat
  | .more e => e.Wide
  | .stray => True

theorem opening_of (byte : UInt8) : (opening byte).Of byte := by
  unfold opening
  simp only [UInt8.lt_iff_toNat_lt, ← UInt8.toNat_inj, UInt8.reduceToNat]
  repeat' (refine iteInduction (fun _ => ?_) (fun _ => ?_))
  all_goals first
    | trivial
    | rfl
    | exact ⟨by simp only; decide, by simp only; decide, by simp only [UInt8.reduceToNat]; omega,
        by simp only; omega⟩

theorem opening_of_range {byte : UInt8} (above : 0x80 ≤ byte) (below : byte ≤ 0xBF) :
    opening byte = .stray := by
  rw [opening, if_neg (UInt8.not_lt.mpr above), if_pos (UInt8.lt_of_le_of_lt below (by decide))]

namespace Reader

theorem begin_wide (reader : Reader) (byte : UInt8) : (reader.begin byte).Wide := by
  intro e expecting
  unfold begin at expecting
  cases opens : opening byte with
  | whole c => simp [opens] at expecting
  | stray => simp [opens] at expecting
  | more next =>
      simp only [opens, Option.some.injEq] at expecting
      have wide := opening_of byte
      rw [opens] at wide
      exact expecting ▸ wide

theorem feed_wide {reader : Reader} (wide : reader.Wide) (byte : UInt8) :
    (reader.feed byte).Wide := by
  cases expecting : reader.expecting with
  | none =>
      simp only [feed, expecting]
      exact begin_wide reader byte
  | some e =>
      have open_wide := wide e expecting
      simp only [feed, expecting]
      split
      · rename_i goesOn
        split
        · intro next found
          simp at found
        · intro next found
          simp only [Option.some.injEq] at found
          subst found
          have reached := UInt8.le_iff_toNat_le.mp goesOn.1
          have enough := open_wide.bits
          constructor
          · exact UInt8.le_refl _
          · exact UInt8.le_refl _
          · simp only
            omega
          · intro _
            simp only
            omega
      · exact begin_wide _ byte

theorem foldl_wide (bytes : List UInt8) : ∀ {reader : Reader}, reader.Wide →
    (bytes.foldl feed reader).Wide := by
  induction bytes with
  | nil => intro reader wide; exact wide
  | cons byte rest ih =>
      intro reader wide
      exact ih (feed_wide wide byte)

theorem read_wide (bytes : List UInt8) : (read bytes).Wide :=
  foldl_wide bytes (by intro e found; simp at found)

/-- A byte that goes on with an open character begins none. -/
theorem Wide.opening {reader : Reader} (wide : reader.Wide) {byte : UInt8} {rest : List UInt8}
    (goesOn : reader.Continues (byte :: rest)) : opening byte = .stray := by
  cases expecting : reader.expecting with
  | none => simp [Continues, expecting] at goesOn
  | some e =>
      simp only [Continues, expecting] at goesOn
      have range := wide e expecting
      exact opening_of_range (UInt8.le_trans range.low goesOn.1) (UInt8.le_trans goesOn.2 range.high)

end Reader

/-- A byte that begins no character is a part of its own at the front of a buffer. -/
theorem length_decode_cons_of_stray {byte : UInt8} (stray : opening byte = .stray)
    (rest : List UInt8) : (decode (byte :: rest)).length = (decode rest).length + 1 := by
  have closed : (read [byte]).expecting = none := by
    simp [read, Reader.feed, Reader.begin, stray]
  have refused : ¬ (read [byte]).Continues rest := by
    cases rest <;> simp [Reader.Continues, closed]
  have parts := congrArg List.length (decode_append refused)
  rw [List.length_append, length_decode_singleton, List.singleton_append] at parts
  rw [parts, Nat.add_comm]

/-- Reading on never gives more characters than reading afresh. -/
theorem Reader.size_finish_foldl_le (bytes : List UInt8) : ∀ {reader : Reader}, reader.Wide →
    (bytes.foldl feed reader).finish.size ≤ reader.finish.size + (decode bytes).length := by
  induction bytes with
  | nil => exact fun _ => Nat.le_refl _
  | cons byte rest ih =>
      intro reader wide
      by_cases goesOn : reader.Continues (byte :: rest)
      · have behind := ih (feed_wide wide byte)
        rw [size_finish_feed_of_continues goesOn] at behind
        rw [List.foldl_cons, length_decode_cons_of_stray (wide.opening goesOn)]
        omega
      · apply Nat.le_of_eq
        rw [foldl_of_not_continues (List.cons_ne_nil _ _) goesOn, finish_behind, Array.size_append,
          length_decode]

theorem length_decode_append_le (front back : List UInt8) :
    (decode (front ++ back)).length ≤ (decode front).length + (decode back).length := by
  have whole := Reader.size_finish_foldl_le back (Reader.read_wide front)
  rw [length_decode (front ++ back), length_decode front, read, List.foldl_append]
  exact whole

/-- A cut inside a character makes two parts of it at least. -/
theorem length_decode_append_lt {front back : List UInt8}
    (goesOn : (read front).Continues back) :
    (decode (front ++ back)).length < (decode front).length + (decode back).length := by
  cases back with
  | nil => exact absurd goesOn id
  | cons byte rest =>
      have same := Reader.size_finish_feed_of_continues goesOn
      rw [← read_concat, ← length_decode, ← length_decode] at same
      have whole := length_decode_append_le (front ++ [byte]) rest
      rw [List.append_assoc, List.singleton_append, same] at whole
      rw [length_decode_cons_of_stray ((Reader.read_wide front).opening goesOn)]
      omega

/-- The boundaries of a buffer are the offsets that divide its text. -/
theorem boundary_iff_decode {code : List UInt8} {offset : Nat} :
    Boundary code offset ↔ offset ≤ code.length ∧
      decode code = decode (code.take offset) ++ decode (code.drop offset) := by
  constructor
  · intro boundary
    have text := decode_append boundary.2
    rw [List.take_append_drop] at text
    exact ⟨boundary.1, text⟩
  · rintro ⟨inside, text⟩
    refine ⟨inside, fun goesOn => ?_⟩
    have longer := length_decode_append_lt goesOn
    rw [List.take_append_drop, text, List.length_append] at longer
    exact Nat.lt_irrefl _ longer

end SourceIndex.Utf8
