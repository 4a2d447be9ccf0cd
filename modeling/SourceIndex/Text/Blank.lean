/-! # Blank characters and words

The blank characters are the white space of Unicode together with the four information
separators.  `wordCount` counts the maximal runs of other characters, which is the weight
that chunks are measured by. -/
set_option autoImplicit false
namespace SourceIndex.Text

/-- White space in the widest sense: it separates words and is trimmed from texts. -/
def isBlank (c : Char) : Bool :=
  let n := c.toNat
  (0x09 ≤ n && n ≤ 0x0D) || (0x1C ≤ n && n ≤ 0x20) || n == 0x85 || n == 0xA0 || n == 0x1680
    || (0x2000 ≤ n && n ≤ 0x200A) || n == 0x2028 || n == 0x2029 || n == 0x202F || n == 0x205F
    || n == 0x3000

def allBlank (text : List Char) : Bool := text.all isBlank

/-- Where a count of words stands: how many have begun, and whether the last one is still
open. -/
structure WordScan where
  begun : Nat := 0
  inside : Bool := false
  deriving DecidableEq, Repr

/-- A word begins at a character that is not blank and follows no open word. -/
def WordScan.step (scan : WordScan) (c : Char) : WordScan :=
  if isBlank c then { scan with inside := false }
  else if scan.inside then scan
  else { begun := scan.begun + 1, inside := true }

def wordCount (text : List Char) : Nat := (text.foldl WordScan.step {}).begun

def trimLeft (drop : Char → Bool) (text : List Char) : List Char := text.dropWhile drop

def trimRight (drop : Char → Bool) (text : List Char) : List Char :=
  (text.reverse.dropWhile drop).reverse

def trimBy (drop : Char → Bool) (text : List Char) : List Char :=
  trimRight drop (trimLeft drop text)

def trim (text : String) : String := String.ofList (trimBy isBlank text.toList)

end SourceIndex.Text
