import SourceIndex.Text.CaseTables

/-! # Small and capital letters

`lower` gives the small form of a text.  Each capital has its own small form, with two
exceptions: the dotted capital I becomes two characters, and a sigma that ends a word is
written in its final form.  `asciiCapitals` gives the capital form of a text as far as it
consists of ASCII letters, which is what names of a fixed ASCII list are compared by. -/
set_option autoImplicit false
namespace SourceIndex.Text

def smallForm (codePoint : Nat) : Nat :=
  match smallForms.find? (·.covers codePoint) with
  | some run => (codePoint + run.offset).toNat
  | none => codePoint

/-- The nearest character that matters to the case of its neighbours is cased. -/
def nearestIsCased (characters : List Char) : Bool :=
  match characters.find? fun c => !inRanges caseIgnorable c.toNat with
  | some c => inRanges casedCharacters c.toNat
  | none => false

/-- The small form of one character between the characters before it, the nearest first, and
those after it. -/
def lowerBetween (before : List Char) (c : Char) (after : List Char) : List Char :=
  if c.toNat < 0x80 then [c.toLower]
  else if c.toNat = 0x130 then ['i', Char.ofNat 0x307]
  else if c.toNat = 0x3A3 then
    if nearestIsCased before && !nearestIsCased after then [Char.ofNat 0x3C2]
    else [Char.ofNat 0x3C3]
  else [Char.ofNat (smallForm c.toNat)]

/-- The small form of a text that follows the characters `before`, the nearest first. -/
def lowerAfter (before : List Char) : List Char → List Char
  | [] => []
  | c :: rest => lowerBetween before c rest ++ lowerAfter (c :: before) rest

def lower (text : String) : String := String.ofList (lowerAfter [] text.toList)

/-- The capital form of a character where it consists of ASCII letters, otherwise the character
itself. -/
def asciiCapital (c : Char) : List Char :=
  match c.toNat with
  | 0xDF => ['S', 'S']
  | 0x131 => ['I']
  | 0x17F => ['S']
  | 0xFB00 => ['F', 'F']
  | 0xFB01 => ['F', 'I']
  | 0xFB02 => ['F', 'L']
  | 0xFB03 => ['F', 'F', 'I']
  | 0xFB04 => ['F', 'F', 'L']
  | 0xFB05 => ['S', 'T']
  | 0xFB06 => ['S', 'T']
  | _ => [c.toUpper]

def asciiCapitals (text : String) : String := String.ofList (text.toList.flatMap asciiCapital)

end SourceIndex.Text
