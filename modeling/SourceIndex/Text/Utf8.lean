/-! # UTF-8, read without giving up

Source buffers hold any bytes at all, so reading them as text never fails.  `parts`
lists what a buffer holds: each well-formed character as itself and each maximal
ill-formed part as `none`.  The three readers differ only in what they make of the
ill-formed parts: `decode` shows a replacement character in the place of each,
`decodeDropping` leaves them out, and `decodeStrict?` refuses the buffer.

A part is maximal when it is as long as a beginning of some character can be; the byte
that could not continue it is read again as the beginning of what follows. -/
set_option autoImplicit false
namespace SourceIndex.Utf8

/-- What a reader inside a character waits for: how many bytes are still owed, the range
the next one has to fall into, and the bits read so far. -/
structure Expectation where
  owed : Nat
  low : UInt8
  high : UInt8
  bits : Nat
  deriving DecidableEq, Repr

inductive Opening where
  | whole (character : Char)
  | more (expectation : Expectation)
  | stray
  deriving DecidableEq, Repr

/-- Overlong forms, surrogates and values above the last code point are shut out by the
range of the second byte. -/
def opening (byte : UInt8) : Opening :=
  if byte < 0x80 then .whole (Char.ofNat byte.toNat)
  else if byte < 0xC2 then .stray
  else if byte < 0xE0 then .more ⟨1, 0x80, 0xBF, byte.toNat - 0xC0⟩
  else if byte = 0xE0 then .more ⟨2, 0xA0, 0xBF, 0⟩
  else if byte = 0xED then .more ⟨2, 0x80, 0x9F, 0xD⟩
  else if byte < 0xF0 then .more ⟨2, 0x80, 0xBF, byte.toNat - 0xE0⟩
  else if byte = 0xF0 then .more ⟨3, 0x90, 0xBF, 0⟩
  else if byte < 0xF4 then .more ⟨3, 0x80, 0xBF, byte.toNat - 0xF0⟩
  else if byte = 0xF4 then .more ⟨3, 0x80, 0x8F, 4⟩
  else .stray

structure Reader where
  expecting : Option Expectation := none
  parts : Array (Option Char) := #[]

namespace Reader

def begin (reader : Reader) (byte : UInt8) : Reader :=
  match opening byte with
  | .whole character => ⟨none, reader.parts.push (some character)⟩
  | .more expectation => ⟨some expectation, reader.parts⟩
  | .stray => ⟨none, reader.parts.push none⟩

/-- Read one byte.  A byte that cannot continue the open character closes it as an
ill-formed part and begins anew. -/
def feed (reader : Reader) (byte : UInt8) : Reader :=
  match reader.expecting with
  | none => reader.begin byte
  | some e =>
    if e.low ≤ byte ∧ byte ≤ e.high then
      -- the six bits of the byte follow those read so far
      let bits := e.bits * 64 + (byte.toNat - 0x80)
      if e.owed = 1 then ⟨none, reader.parts.push (some (Char.ofNat bits))⟩
      else ⟨some ⟨e.owed - 1, 0x80, 0xBF, bits⟩, reader.parts⟩
    else ({ reader with expecting := none, parts := reader.parts.push none } : Reader).begin byte

/-- What has been read once the buffer ends; an open character is ill-formed then. -/
def finish (reader : Reader) : Array (Option Char) :=
  if reader.expecting.isSome then reader.parts.push none else reader.parts

end Reader

/-- The characters of a buffer in order, with `none` for each maximal ill-formed part. -/
def parts (bytes : List UInt8) : List (Option Char) :=
  (bytes.foldl Reader.feed {}).finish.toList

def replacement : Char := Char.ofNat 0xFFFD

def decode (bytes : List UInt8) : List Char := (parts bytes).map (·.getD replacement)

def decodeDropping (bytes : List UInt8) : List Char := (parts bytes).filterMap id

def decodeStrict? (bytes : List UInt8) : Option (List Char) := (parts bytes).mapM id

def encode (text : List Char) : List UInt8 := text.flatMap String.utf8EncodeChar

def byteCount (text : List Char) : Nat := text.foldl (fun count c => count + c.utf8Size) 0

end SourceIndex.Utf8
