/-! # Name patterns

A pattern is read once into steps, and a name matches when the steps consume it from end to
end.  `*` stands for any run of characters, `?` for one, a bracketed class for one of its
members or, after `!`, for one that is none of them; every other character stands for itself,
as does a bracket that is never closed.

A class is cut at the hyphens that make ranges.  A range whose ends are out of order holds
nothing: its ends go with it and the two parts it joined become one. -/
set_option autoImplicit false
namespace SourceIndex.Glob

inductive Step where
  | anyRun
  | anyOne
  /-- One character that is in the class, or when `negated` one that is not. -/
  | oneOf (negated : Bool) (singles : List Char) (ranges : List (Char × Char))
  | never
  | exactly (c : Char)
  deriving DecidableEq, Repr

def Step.accepts : Step → Char → Bool
  | .anyRun, _ => false
  | .anyOne, _ => true
  | .oneOf negated singles ranges, c =>
    negated != (singles.contains c || ranges.any fun range => range.1 ≤ c && c ≤ range.2)
  | .never, _ => false
  | .exactly expected, c => c == expected

/-! ## Reading a class -/

/-- Cut the inside of a class at its range hyphens, with the part read so far in reverse.  The
next `reach` characters make no range, and neither do the two behind a cut. -/
def cutRanges : Nat → List Char → List Char → List (List Char)
  | _, part, [] => [part.reverse]
  | 0, part, c :: rest =>
    if c = '-' then part.reverse :: cutRanges 2 [] rest else cutRanges 0 (c :: part) rest
  | reach + 1, part, c :: rest => cutRanges reach (c :: part) rest

/-- A hyphen at the very end makes no range and belongs to the last part. -/
def closeParts : List (List Char) → List (List Char)
  | [] => []
  | [part] => [part]
  | [part, []] => [part ++ ['-']]
  | part :: rest => part :: closeParts rest

/-- The two parts meet in a range whose ends are out of order. -/
def outOfOrder (left right : List Char) : Bool :=
  match left.getLast?, right.head? with
  | some low, some high => high < low
  | _, _ => false

/-- Drop the ranges that are out of order, from the last to the first. -/
def dropEmptyRanges : List (List Char) → List (List Char)
  | [] => []
  | part :: rest =>
    match dropEmptyRanges rest with
    | [] => [part]
    | next :: others =>
      if outOfOrder part next then (part.dropLast ++ next.tail) :: others
      else part :: next :: others

def rangesBetween : List (List Char) → List (Char × Char)
  | left :: right :: rest =>
    (match left.getLast?, right.head? with
      | some low, some high => [(low, high)]
      | _, _ => []) ++ rangesBetween (right :: rest)
  | _ => []

/-- The step of a class with this inside.  Where nothing but the mark of negation is left of
the first part, the hyphen behind it is a member like any other. -/
def classStep (inside : List Char) : Step :=
  let reach := if inside.head? = some '!' then 2 else 1
  let parts := dropEmptyRanges (closeParts (cutRanges reach [] inside))
  match parts with
  | [] => .never
  | [[]] => .never
  | [['!']] => .anyOne
  | ['!'] :: rest => .oneOf true ('-' :: rest.flatten) (rangesBetween rest)
  | ('!' :: part) :: rest => .oneOf true (part ++ rest.flatten) (rangesBetween (part :: rest))
  | _ => .oneOf false parts.flatten (rangesBetween parts)

/-- The inside of the class that begins here and what follows its closing bracket.  A bracket
that comes first, or first after `!`, is a member. -/
def classInside? (text : List Char) : Option (List Char × List Char) :=
  let (lead, rest) :=
    match text with
    | '!' :: ']' :: rest => (['!', ']'], rest)
    | '!' :: rest => (['!'], rest)
    | ']' :: rest => ([']'], rest)
    | _ => ([], text)
  match rest.dropWhile (· ≠ ']') with
  | [] => none
  | _ :: after => some (lead ++ rest.takeWhile (· ≠ ']'), after)

/-! ## Reading a pattern and matching -/

def readSteps : Nat → List Char → List Step
  | 0, _ => []
  | _ + 1, [] => []
  | fuel + 1, '*' :: rest => .anyRun :: readSteps fuel rest
  | fuel + 1, '?' :: rest => .anyOne :: readSteps fuel rest
  | fuel + 1, '[' :: rest =>
    match classInside? rest with
    | some (inside, after) => classStep inside :: readSteps fuel after
    | none => .exactly '[' :: readSteps fuel rest
  | fuel + 1, c :: rest => .exactly c :: readSteps fuel rest

def steps (pattern : String) : List Step := readSteps pattern.toList.length pattern.toList

def suffixes : List Char → List (List Char)
  | [] => [[]]
  | c :: rest => (c :: rest) :: suffixes rest

/-- The rests of a name after one more step, the longest first, from those before it. -/
def advance (rests : List (List Char)) (step : Step) : List (List Char) :=
  match step with
  | .anyRun =>
    match rests with
    | [] => []
    | longest :: _ => suffixes longest
  | _ => rests.filterMap fun
    | [] => none
    | c :: rest => if step.accepts c then some rest else none

def accepts (pattern name : String) : Bool :=
  ((steps pattern).foldl advance [name.toList]).any List.isEmpty

def anyAccepts (patterns : List String) (name : String) : Bool :=
  patterns.any fun pattern => accepts pattern name

end SourceIndex.Glob
