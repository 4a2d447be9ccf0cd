import SourceIndex.Proofs.Text.Division
import SourceIndex.Proofs.Text.Rows

/-! # Line feeds in a buffer and in its text

A line feed is a character of one byte, and its byte stands in no other character.  So it is
always read as itself, whatever ill-formed bytes stand around it, and the rows of a text are the
texts of the rows of its buffer (`rows_decode`). -/
set_option autoImplicit false
namespace SourceIndex.Utf8

/-- The byte of a line feed. -/
def lineFeed : UInt8 := 0x0A

theorem ofNat_ne_lineFeed {code : Nat} (other : code ≠ 10) : Char.ofNat code ≠ '\n' := by
  intro same
  have value := congrArg Char.toNat same
  by_cases valid : code.isValidChar
  · rw [Char.ofNat, dif_pos valid] at value
    exact other value
  · rw [Char.ofNat, dif_neg valid] at value
    exact absurd value (by decide)

namespace Reader

/-- A line feed goes on with no character. -/
theorem Wide.not_continues {reader : Reader} (wide : reader.Wide) (rest : List UInt8) :
    ¬ reader.Continues (lineFeed :: rest) := by
  cases expecting : reader.expecting with
  | none => simp [Continues, expecting]
  | some e =>
      simp only [Continues, expecting]
      intro goesOn
      have reached := UInt8.le_trans (wide e expecting).low goesOn.1
      exact absurd reached (by decide)

/-- No line feed has been read so far. -/
structure Flat (reader : Reader) : Prop where
  wide : reader.Wide
  absent : some '\n' ∉ reader.parts

theorem begin_flat {reader : Reader} (absent : some '\n' ∉ reader.parts) {byte : UInt8}
    (other : byte ≠ lineFeed) : (reader.begin byte).Flat := by
  refine ⟨begin_wide reader byte, ?_⟩
  unfold begin
  cases opens : opening byte with
  | more next => exact absent
  | stray => simpa using absent
  | whole c =>
      have differs : byte.toNat ≠ 10 := fun same => other (UInt8.toNat_inj.mp same)
      have here := ofNat_ne_lineFeed differs
      have single := opening_of byte
      rw [opens] at single
      rw [← single] at here
      simp [absent, Ne.symm here]

theorem feed_flat {reader : Reader} (flat : reader.Flat) {byte : UInt8} (other : byte ≠ lineFeed) :
    (reader.feed byte).Flat := by
  refine ⟨feed_wide flat.wide byte, ?_⟩
  have absent := flat.absent
  cases expecting : reader.expecting with
  | none =>
      simp only [feed, expecting]
      exact (begin_flat absent other).absent
  | some e =>
      simp only [feed, expecting]
      split
      · split
        · rename_i goesOn last
          have enough := (flat.wide e expecting).last last
          have differs : e.bits * 64 + (byte.toNat - 0x80) ≠ 10 := by omega
          simp [absent, Ne.symm (ofNat_ne_lineFeed differs)]
        · exact absent
      · exact (begin_flat (by simpa using absent) other).absent

theorem foldl_flat (bytes : List UInt8) : ∀ {reader : Reader}, reader.Flat →
    lineFeed ∉ bytes → (bytes.foldl feed reader).Flat := by
  induction bytes with
  | nil => intro reader flat _; exact flat
  | cons byte rest ih =>
      intro reader flat absent
      obtain ⟨other, later⟩ := List.ne_and_not_mem_of_not_mem_cons absent
      exact ih (feed_flat flat (Ne.symm other)) later

end Reader

/-- The text of a buffer without line feeds has none. -/
theorem lineFeed_not_mem_decode {bytes : List UInt8} (absent : lineFeed ∉ bytes) :
    '\n' ∉ decode bytes := by
  have start : Reader.Flat {} := ⟨by intro e found; simp at found, by simp⟩
  have flat := Reader.foldl_flat bytes start absent
  have unread : some '\n' ∉ parts bytes := by
    have kept := flat.absent
    simp only [parts, Reader.finish]
    split <;> simpa using kept
  intro member
  obtain ⟨part, among, shown⟩ := List.mem_map.mp member
  cases part with
  | none => exact absurd shown (by decide)
  | some c => exact unread (shown ▸ among)

theorem decode_append_lineFeed (front back : List UInt8) :
    decode (front ++ lineFeed :: back) = decode front ++ '\n' :: decode back := by
  have closed : ¬ (read [lineFeed]).Continues back := by
    cases back <;> exact id
  have first : decode [lineFeed] = ['\n'] := by decide
  rw [decode_append ((Reader.read_wide front).not_continues back),
    ← List.singleton_append, decode_append closed, first]
  rfl

/-! ## Rows of a buffer -/

/-- The rows of a text are the texts of the rows of its buffer. -/
theorem pieces_decode (code : List UInt8) :
    Text.pieces '\n' (decode code) = (Text.pieces lineFeed code).map decode := by
  -- by the number of line feeds, cutting at the first: no other byte is sure to end a character
  generalize breaks : code.count lineFeed = n
  induction n generalizing code with
  | zero =>
      have absent := List.count_eq_zero.mp breaks
      rw [Text.pieces_of_not_mem absent, Text.pieces_of_not_mem (lineFeed_not_mem_decode absent)]
      rfl
  | succ n ih =>
      have found : lineFeed ∈ code := List.count_pos_iff.mp (by omega)
      obtain ⟨front, back, rfl, absent⟩ := List.eq_append_cons_of_mem found
      have fewer : back.count lineFeed = n := by
        rw [List.count_append, List.count_eq_zero.mpr absent, List.count_cons_self] at breaks
        omega
      rw [decode_append_lineFeed, Text.pieces_append_cons, Text.pieces_append_cons,
        Text.pieces_of_not_mem absent, Text.pieces_of_not_mem (lineFeed_not_mem_decode absent),
        ih back fewer]
      rfl

theorem count_decode (code : List UInt8) :
    (decode code).count '\n' = code.count lineFeed := by
  have texts := congrArg List.length (pieces_decode code)
  rw [List.length_map, Text.length_pieces, Text.length_pieces] at texts
  exact Nat.succ.inj texts

theorem rows_decode (code : List UInt8) :
    Text.rows '\n' (decode code) = (Text.rows lineFeed code).map decode := by
  have ended : (Text.pieces '\n' (decode code)).getLast? = some [] ↔
      (Text.pieces lineFeed code).getLast? = some [] := by
    rw [pieces_decode, List.getLast?_map]
    cases (Text.pieces lineFeed code).getLast? with
    | none => simp
    | some row => simp [decode_eq_nil]
  simp only [Text.rows, ended]
  rw [pieces_decode]
  split
  · rw [List.map_dropLast]
  · rfl

end SourceIndex.Utf8
