import SourceIndex.Proofs.Text.Boundaries

/-! # Encoded texts read back

The bytes of a character read as that character, and of the bytes of a character without the last
ones nothing is read (`decodeDropping_take_character`).  So a cut through the bytes of a text
leaves the characters in front of the cut, and of these it leaves as many as fit
(`decodeDropping_take`). -/
set_option autoImplicit false
namespace SourceIndex.Utf8

/-- The bytes are those that a reader inside a character still needs to read it as `c`. -/
inductive Completes (c : Char) : Expectation → List UInt8 → Prop where
  | last {low high : UInt8} {bits : Nat} {byte : UInt8} (above : low ≤ byte) (below : byte ≤ high)
      (whole : bits * 64 + (byte.toNat - 0x80) = c.toNat) : Completes c ⟨1, low, high, bits⟩ [byte]
  | more {owed : Nat} {low high : UInt8} {bits : Nat} {byte : UInt8} {rest : List UInt8}
      (above : low ≤ byte) (below : byte ≤ high)
      (others : Completes c ⟨owed + 1, 0x80, 0xBF, bits * 64 + (byte.toNat - 0x80)⟩ rest) :
      Completes c ⟨owed + 2, low, high, bits⟩ (byte :: rest)

section
variable {c : Char} {e : Expectation} {bytes : List UInt8}

theorem Completes.read (completes : Completes c e bytes) (before : Array (Option Char)) :
    bytes.foldl Reader.feed ⟨some e, before⟩ = ⟨none, before.push (some c)⟩ := by
  induction completes with
  | last above below whole =>
      simp only [List.foldl_cons, List.foldl_nil, Reader.feed, above, below, and_self, if_true, whole,
        Char.ofNat_toNat]
  | more above below _ ih =>
      rw [List.foldl_cons, ← ih]
      simp [Reader.feed, above, below]

/-- As long as bytes are missing the character stays open. -/
theorem Completes.read_take (completes : Completes c e bytes) (before : Array (Option Char)) :
    ∀ {kept : Nat}, kept < bytes.length →
      ∃ expected,
        (bytes.take kept).foldl Reader.feed ⟨some e, before⟩ = ⟨some expected, before⟩ := by
  induction completes with
  | last _ _ _ =>
      intro kept short
      rw [List.length_singleton, Nat.lt_one_iff] at short
      exact ⟨_, by rw [short]; rfl⟩
  | more above below _ ih =>
      intro kept short
      cases kept with
      | zero => exact ⟨_, rfl⟩
      | succ kept =>
          obtain ⟨expected, rest⟩ := ih (Nat.lt_of_succ_lt_succ short)
          refine ⟨expected, ?_⟩
          rw [List.take_succ_cons, List.foldl_cons, ← rest]
          simp [Reader.feed, above, below]

end

/-! ## The four forms of a character -/

theorem opening_ofNat {n : Nat} (small : n < 256) :
    opening (UInt8.ofNat n) =
      if n < 0x80 then .whole (Char.ofNat n)
      else if n < 0xC2 then .stray
      else if n < 0xE0 then .more ⟨1, 0x80, 0xBF, n - 0xC0⟩
      else if n = 0xE0 then .more ⟨2, 0xA0, 0xBF, 0⟩
      else if n = 0xED then .more ⟨2, 0x80, 0x9F, 0xD⟩
      else if n < 0xF0 then .more ⟨2, 0x80, 0xBF, n - 0xE0⟩
      else if n = 0xF0 then .more ⟨3, 0x90, 0xBF, 0⟩
      else if n < 0xF4 then .more ⟨3, 0x80, 0xBF, n - 0xF0⟩
      else if n = 0xF4 then .more ⟨3, 0x80, 0x8F, 4⟩
      else .stray := by
  have value : (UInt8.ofNat n).toNat = n := UInt8.toNat_ofNat_of_lt' small
  simp only [opening, UInt8.lt_iff_toNat_lt, ← UInt8.toNat_inj, value]
  rfl

theorem Completes.last_ofNat {c : Char} {low high : UInt8} {bits n : Nat} (small : n < 256)
    (above : low.toNat ≤ n) (below : n ≤ high.toNat) (whole : bits * 64 + (n - 0x80) = c.toNat) :
    Completes c ⟨1, low, high, bits⟩ [UInt8.ofNat n] := by
  have value : (UInt8.ofNat n).toNat = n := UInt8.toNat_ofNat_of_lt' small
  rw [← value] at above below whole
  exact .last (UInt8.le_iff_toNat_le.mpr above) (UInt8.le_iff_toNat_le.mpr below) whole

theorem Completes.more_ofNat {c : Char} {owed : Nat} {low high : UInt8} {bits n : Nat}
    {rest : List UInt8} (small : n < 256) (above : low.toNat ≤ n) (below : n ≤ high.toNat)
    (others : Completes c ⟨owed + 1, 0x80, 0xBF, bits * 64 + (n - 0x80)⟩ rest) :
    Completes c ⟨owed + 2, low, high, bits⟩ (UInt8.ofNat n :: rest) := by
  have value : (UInt8.ofNat n).toNat = n := UInt8.toNat_ofNat_of_lt' small
  rw [← value] at above below others
  exact .more (UInt8.le_iff_toNat_le.mpr above) (UInt8.le_iff_toNat_le.mpr below) others

theorem opening_two {n : Nat} (low : 0x80 ≤ n) (high : n ≤ 0x7FF) :
    opening (UInt8.ofNat (n / 64 % 32 + 192)) = .more ⟨1, 0x80, 0xBF, n / 64⟩ := by
  have bits : n / 64 % 32 + 192 - 0xC0 = n / 64 := by omega
  rw [opening_ofNat (by omega), if_neg (by omega), if_neg (by omega), if_pos (by omega), bits]

/-- The range of the second byte shuts out the shorter forms and the surrogates. -/
theorem opening_three {n : Nat} (low : 0x800 ≤ n) (high : n ≤ 0xFFFF)
    (valid : n < 0xD800 ∨ 0xDFFF < n) :
    ∃ least greatest : UInt8,
      opening (UInt8.ofNat (n / 4096 % 16 + 224)) = .more ⟨2, least, greatest, n / 4096⟩ ∧
        least.toNat ≤ n / 64 % 64 + 128 ∧ n / 64 % 64 + 128 ≤ greatest.toNat := by
  have bits : n / 4096 % 16 + 224 - 0xE0 = n / 4096 := by omega
  rw [opening_ofNat (by omega), if_neg (by omega), if_neg (by omega), if_neg (by omega)]
  by_cases first : n / 4096 = 0
  · rw [if_pos (by omega), first]
    exact ⟨0xA0, 0xBF, rfl, show 160 ≤ _ by omega, show _ ≤ 191 by omega⟩
  · rw [if_neg (by omega)]
    by_cases surrogate : n / 4096 = 13
    · rw [if_pos (by omega), surrogate]
      exact ⟨0x80, 0x9F, rfl, show 128 ≤ _ by omega, show _ ≤ 159 by omega⟩
    · rw [if_neg (by omega), if_pos (by omega), bits]
      exact ⟨0x80, 0xBF, rfl, show 128 ≤ _ by omega, show _ ≤ 191 by omega⟩

/-- The range of the second byte shuts out the shorter forms and what is above the last code
point. -/
theorem opening_four {n : Nat} (low : 0x10000 ≤ n) (high : n < 0x110000) :
    ∃ least greatest : UInt8,
      opening (UInt8.ofNat (n / 262144 % 8 + 240)) = .more ⟨3, least, greatest, n / 262144⟩ ∧
        least.toNat ≤ n / 4096 % 64 + 128 ∧ n / 4096 % 64 + 128 ≤ greatest.toNat := by
  have bits : n / 262144 % 8 + 240 - 0xF0 = n / 262144 := by omega
  rw [opening_ofNat (by omega), if_neg (by omega), if_neg (by omega), if_neg (by omega),
    if_neg (by omega), if_neg (by omega), if_neg (by omega)]
  by_cases first : n / 262144 = 0
  · rw [if_pos (by omega), first]
    exact ⟨0x90, 0xBF, rfl, show 144 ≤ _ by omega, show _ ≤ 191 by omega⟩
  · rw [if_neg (by omega)]
    by_cases last : n / 262144 = 4
    · rw [if_neg (by omega), if_pos (by omega), last]
      exact ⟨0x80, 0x8F, rfl, show 128 ≤ _ by omega, show _ ≤ 143 by omega⟩
    · rw [if_pos (by omega), bits]
      exact ⟨0x80, 0xBF, rfl, show 128 ≤ _ by omega, show _ ≤ 191 by omega⟩

/-- The bytes of a character: the first opens it, and the others complete it. -/
inductive Forms (c : Char) : List UInt8 → Prop where
  | single {byte : UInt8} (opens : opening byte = .whole c) : Forms c [byte]
  | several {byte : UInt8} {e : Expectation} {rest : List UInt8} (opens : opening byte = .more e)
      (completes : Completes c e rest) : Forms c (byte :: rest)

theorem forms_utf8EncodeChar (c : Char) : Forms c (String.utf8EncodeChar c) := by
  have valid : c.toNat < 0xD800 ∨ 0xDFFF < c.toNat ∧ c.toNat < 0x110000 := c.valid
  have value : c.val.toNat = c.toNat := rfl
  rw [String.utf8EncodeChar, value]
  split
  · rename_i one
    refine .single ?_
    rw [opening_ofNat (by omega), if_pos (by omega), Char.ofNat_toNat]
  split
  · rename_i two
    refine .several (opening_two (by omega) two) ?_
    exact .last_ofNat (by omega) (show 128 ≤ _ by omega) (show _ ≤ 191 by omega) (by omega)
  split
  · rename_i three
    obtain ⟨least, greatest, opens, above, below⟩ :=
      opening_three (by omega) three (by omega)
    refine .several opens (.more_ofNat (by omega) above below ?_)
    exact .last_ofNat (by omega) (show 128 ≤ _ by omega) (show _ ≤ 191 by omega) (by omega)
  · obtain ⟨least, greatest, opens, above, below⟩ :=
      opening_four (n := c.toNat) (by omega) (by omega)
    refine .several opens (.more_ofNat (by omega) above below ?_)
    refine .more_ofNat (by omega) (show 128 ≤ _ by omega) (show _ ≤ 191 by omega) ?_
    exact .last_ofNat (by omega) (show 128 ≤ _ by omega) (show _ ≤ 191 by omega) (by omega)

section
variable {c : Char} {bytes : List UInt8}

theorem Forms.read (forms : Forms c bytes) (before : Array (Option Char)) :
    bytes.foldl Reader.feed ⟨none, before⟩ = ⟨none, before.push (some c)⟩ := by
  cases forms with
  | single opens => simp [Reader.feed, Reader.begin, opens]
  | several opens completes =>
      rw [← completes.read before, List.foldl_cons]
      simp [Reader.feed, Reader.begin, opens]

theorem Forms.parts_read_take (forms : Forms c bytes) {kept : Nat} (short : kept < bytes.length) :
    ((bytes.take kept).foldl Reader.feed {}).parts = #[] := by
  cases kept with
  | zero => rfl
  | succ kept =>
      cases forms with
      | single opens => simp at short
      | @several byte e rest opens completes =>
          have first : Reader.feed {} byte = ⟨some e, #[]⟩ := by
            simp [Reader.feed, Reader.begin, opens]
          obtain ⟨expected, others⟩ := completes.read_take #[] (Nat.lt_of_succ_lt_succ short)
          rw [List.take_succ_cons, List.foldl_cons, first, others]

end

/-! ## Texts -/

@[simp] theorem encode_nil : encode [] = [] := rfl

@[simp] theorem encode_cons (c : Char) (text : List Char) :
    encode (c :: text) = String.utf8EncodeChar c ++ encode text := rfl

theorem length_encode_cons (c : Char) (text : List Char) :
    (encode (c :: text)).length = c.utf8Size + (encode text).length := by
  rw [encode_cons, List.length_append, String.length_utf8EncodeChar]

theorem encode_append (front back : List Char) : encode (front ++ back) = encode front ++ encode back :=
  List.flatMap_append

theorem length_encode_replicate (count : Nat) (c : Char) :
    (encode (List.replicate count c)).length = count * c.utf8Size := by
  induction count with
  | zero => rw [Nat.zero_mul]; rfl
  | succ count ih =>
      rw [List.replicate_succ, length_encode_cons, ih, Nat.succ_mul, Nat.add_comm]

theorem length_encode (text : List Char) : (encode text).length = byteCount text := by
  have counted : ∀ count, text.foldl (fun count c => count + c.utf8Size) count =
      count + (encode text).length := by
    induction text with
    | nil => exact fun _ => rfl
    | cons c rest ih =>
        intro count
        rw [List.foldl_cons, ih, length_encode_cons, Nat.add_assoc]
  rw [byteCount, counted, Nat.zero_add]

/-- A character is read from its bytes, and what follows them is read as if nothing stood in front
of it. -/
theorem decodeDropping_character_append (c : Char) (bytes : List UInt8) :
    decodeDropping (String.utf8EncodeChar c ++ bytes) = c :: decodeDropping bytes := by
  have read : (String.utf8EncodeChar c).foldl Reader.feed {} = ({} : Reader).behind #[some c] :=
    (forms_utf8EncodeChar c).read #[]
  have parts : parts (String.utf8EncodeChar c ++ bytes) = some c :: parts bytes := by
    rw [Utf8.parts, List.foldl_append, read, Reader.foldl_behind, Reader.finish_behind,
      Array.toList_append]
    rfl
  rw [decodeDropping, parts]
  rfl

theorem decodeDropping_take_character {c : Char} {kept : Nat} (short : kept < c.utf8Size) :
    decodeDropping ((String.utf8EncodeChar c).take kept) = [] := by
  rw [← String.length_utf8EncodeChar] at short
  have nothing := (forms_utf8EncodeChar c).parts_read_take short
  unfold decodeDropping parts Reader.finish
  rw [nothing]
  split <;> rfl

/-- The characters of a text from its first on, as long as their bytes fit into a limit. -/
def fitting : Nat → List Char → List Char
  | _, [] => []
  | limit, c :: rest =>
    if c.utf8Size ≤ limit then c :: fitting (limit - c.utf8Size) rest else []

theorem decodeDropping_take (text : List Char) : ∀ limit,
    decodeDropping ((encode text).take limit) = fitting limit text := by
  induction text with
  | nil =>
      intro limit
      rw [encode_nil, List.take_nil]
      rfl
  | cons c rest ih =>
      intro limit
      rw [encode_cons, List.take_append, String.length_utf8EncodeChar, fitting]
      by_cases room : c.utf8Size ≤ limit
      · rw [if_pos room, List.take_of_length_le (by rw [String.length_utf8EncodeChar]; exact room),
          decodeDropping_character_append, ih]
      · have short : limit < c.utf8Size := Nat.lt_of_not_le room
        rw [if_neg room, Nat.sub_eq_zero_of_le (Nat.le_of_lt short), List.take_zero, List.append_nil]
        exact decodeDropping_take_character short

/-- The front is the longest of a text whose bytes fit into a limit. -/
structure LongestFront (limit : Nat) (text front : List Char) : Prop where
  isFront : front <+: text
  fits : (encode front).length ≤ limit
  longest : ∀ other, other <+: text → (encode other).length ≤ limit → other <+: front

theorem LongestFront.self {limit : Nat} {text : List Char} (fits : (encode text).length ≤ limit) :
    LongestFront limit text text :=
  ⟨List.prefix_rfl, fits, fun _ isFront _ => isFront⟩

theorem longestFront_fitting (text : List Char) : ∀ limit,
    LongestFront limit text (fitting limit text) := by
  induction text with
  | nil => exact fun limit => ⟨List.nil_prefix, Nat.zero_le limit, fun _ isFront _ => isFront⟩
  | cons c rest ih =>
      intro limit
      rw [fitting]
      by_cases room : c.utf8Size ≤ limit
      · rw [if_pos room]
        have behind := ih (limit - c.utf8Size)
        refine ⟨List.cons_prefix_cons.mpr ⟨rfl, behind.isFront⟩, ?_, ?_⟩
        · have fits := behind.fits
          rw [length_encode_cons]
          omega
        · intro other isFront fits
          cases other with
          | nil => exact List.nil_prefix
          | cons d others =>
              obtain ⟨rfl, inside⟩ := List.cons_prefix_cons.mp isFront
              rw [length_encode_cons] at fits
              exact List.cons_prefix_cons.mpr ⟨rfl, behind.longest others inside (by omega)⟩
      · rw [if_neg room]
        refine ⟨List.nil_prefix, Nat.zero_le limit, ?_⟩
        intro other isFront fits
        cases other with
        | nil => exact List.nil_prefix
        | cons d others =>
            obtain ⟨rfl, _⟩ := List.cons_prefix_cons.mp isFront
            rw [length_encode_cons] at fits
            exact absurd (Nat.le_trans (Nat.le_add_right _ _) fits) room

namespace LongestFront
variable {limit : Nat} {text front : List Char} (longest : LongestFront limit text front)
include longest

theorem eq_of_fits (fits : (encode text).length ≤ limit) : front = text :=
  longest.isFront.eq_of_length_le (longest.longest text List.prefix_rfl fits).length_le

/-- A cut falls short of the limit by less than the bytes of one character. -/
theorem limit_le (long : limit < (encode text).length) : limit ≤ (encode front).length + 3 := by
  obtain ⟨back, whole⟩ := longest.isFront
  cases back with
  | nil =>
      have fits := longest.fits
      rw [List.append_nil] at whole
      rw [whole] at fits
      omega
  | cons c back =>
      apply Nat.le_of_not_lt
      intro room
      have one : (encode (front ++ [c])).length = (encode front).length + c.utf8Size := by
        rw [encode_append, List.length_append, length_encode_cons]
        rfl
      have fourBytes := c.utf8Size_le_four
      have more := longest.longest (front ++ [c]) ⟨back, by rw [← whole]; simp⟩ (by omega)
      have count := more.length_le
      rw [List.length_append, List.length_singleton] at count
      omega

end LongestFront

end SourceIndex.Utf8
