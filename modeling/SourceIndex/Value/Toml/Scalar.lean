import SourceIndex.Number.Integer
import SourceIndex.Value.Json
import SourceIndex.Value.Toml.Filler

/-! # Numbers and times of a document

Truth values, integers in four bases, decimal numbers, days and times of day.  What looks like a
day is read as one, and has to be one then. -/
set_option autoImplicit false
namespace SourceIndex.Toml

/-- The longest run of digits with single underscores between them, the underscores left out,
and what follows. -/
def digitGroups (isDigit : Char → Bool) : List Char → List Char × List Char
  | [] => ([], [])
  | c :: rest => if isDigit c then more c rest else ([], c :: rest)
where
  more (c : Char) : List Char → List Char × List Char
    | '_' :: d :: rest =>
      if isDigit d then
        let (ds, after) := more d rest
        (c :: ds, after)
      else ([c], '_' :: d :: rest)
    | d :: rest =>
      if isDigit d then
        let (ds, after) := more d rest
        (c :: ds, after)
      else ([c], d :: rest)
    | [] => ([c], [])

def natural (base : Nat) (digits : List Char) : Nat :=
  digits.foldl (fun n c => n * base + (Json.hexValue? c).getD 0) 0

def otherBase? (text : List Char) : Option (Value × List Char) :=
  let inBase (base : Nat) (isDigit : Char → Bool) (rest : List Char) :=
    match digitGroups isDigit rest with
    | ([], _) => none
    | (ds, after) => some (Value.integer (natural base ds), after)
  match text with
  | 'x' :: rest => inBase 16 (fun c => (Json.hexValue? c).isSome) rest
  | 'o' :: rest => inBase 8 (fun c => '0' ≤ c && c ≤ '7') rest
  | 'b' :: rest => inBase 2 (fun c => c = '0' || c = '1') rest
  | _ => none

def sign : List Char → Bool × List Char
  | '-' :: rest => (true, rest)
  | '+' :: rest => (false, rest)
  | text => (false, text)

/-- A fraction; nothing is taken where no digit follows the point. -/
def fraction (text : List Char) : List Char × List Char :=
  match text with
  | '.' :: rest =>
    match digitGroups Char.isDigit rest with
    | ([], _) => ([], text)
    | found => found
  | _ => ([], text)

def exponent (text : List Char) : Option Int × List Char :=
  match text with
  | e :: rest =>
    if e = 'e' ∨ e = 'E' then
      let (negative, unsigned) := sign rest
      match digitGroups Char.isDigit unsigned with
      | ([], _) => (none, text)
      | (ds, after) =>
        let n : Int := natural 10 ds
        (some (if negative then -n else n), after)
    else (none, text)
  | [] => (none, text)

def decimal? (text : List Char) : Option (Except Fault (Taken Value)) :=
  let (negative, unsigned) := sign text
  let (whole, afterWhole) :=
    match unsigned with
    | '0' :: rest => (['0'], rest)
    | _ => digitGroups Char.isDigit unsigned
  if whole.isEmpty then none
  else
    let (part, afterPart) := fraction afterWhole
    let (power, after) := exponent afterPart
    if part.isEmpty ∧ power.isNone then
      if whole.length > Integer.digitLimit then some (.error (.tooManyDigits whole.length))
      else
        let n : Int := natural 10 whole
        some (.ok (.integer (if negative then -n else n), after))
    else
      let size := Decimal.toFloat (natural 10 (whole ++ part)) (power.getD 0 - part.length)
      some (.ok (.real (if negative then -size else size), after))

def special? (text : List Char) : Option (Value × List Char) :=
  let (negative, unsigned) := sign text
  if startsWith unsigned "inf" then
    some (.real (if negative then -1.0 / 0.0 else 1.0 / 0.0), unsigned.drop 3)
  else if startsWith unsigned "nan" then some (.real (0.0 / 0.0), unsigned.drop 3)
  else none

def twoDigits? (low high : Nat) (text : List Char) : Option (Nat × List Char) :=
  match text with
  | a :: b :: rest =>
    if a.isDigit && b.isDigit then
      let n := (a.toNat - 48) * 10 + (b.toNat - 48)
      if low ≤ n ∧ n ≤ high then some (n, rest) else none
    else none
  | _ => none

def after? (c : Char) : List Char → Option (List Char)
  | d :: rest => if d = c then some rest else none
  | [] => none

/-- Millionths of a second; digits beyond the sixth are dropped. -/
def micros (digits : List Char) : Nat :=
  natural 10 ((digits ++ List.replicate 6 '0').take 6)

def clock? (text : List Char) : Option (Clock × List Char) := do
  let (hour, rest) ← twoDigits? 0 23 text
  let (minute, rest) ← twoDigits? 0 59 (← after? ':' rest)
  let (second, rest) ← twoDigits? 0 59 (← after? ':' rest)
  match rest with
  | '.' :: more =>
    match more.span Char.isDigit with
    | ([], _) => some (⟨hour, minute, second, 0⟩, rest)
    | (ds, after) => some (⟨hour, minute, second, micros ds⟩, after)
  | _ => some (⟨hour, minute, second, 0⟩, rest)

def offset? (text : List Char) : Option (Int × List Char) :=
  match text with
  | 'Z' :: rest => some (0, rest)
  | 'z' :: rest => some (0, rest)
  | s :: rest =>
    if s = '+' ∨ s = '-' then do
      let (hour, rest) ← twoDigits? 0 23 rest
      let (minute, rest) ← twoDigits? 0 59 (← after? ':' rest)
      let minutes : Int := hour * 60 + minute
      some (if s = '-' then -minutes else minutes, rest)
    else none
  | [] => none

def day? (text : List Char) : Option (Day × List Char) := do
  let (century, rest) ← twoDigits? 0 99 text
  let (year, rest) ← twoDigits? 0 99 rest
  let (month, rest) ← twoDigits? 1 12 (← after? '-' rest)
  let (day, rest) ← twoDigits? 1 31 (← after? '-' rest)
  some (⟨century * 100 + year, month, day⟩, rest)

/-- A day, with a time of day and a distance from universal time where they follow. -/
def moment? (text : List Char) : Option (Except Fault (Taken Value)) :=
  match day? text with
  | none => (clock? text).map fun (c, rest) => .ok (.moment (.clock c), rest)
  | some (d, rest) =>
    if !d.isValid then some (.error .malformed)
    else
      let timed :=
        match rest with
        | t :: more => if t = 'T' ∨ t = 't' ∨ t = ' ' then clock? more else none
        | [] => none
      match timed with
      | none => some (.ok (.moment (.day d), rest))
      | some (c, afterClock) =>
        match offset? afterClock with
        | none => some (.ok (.moment (.point d c none), afterClock))
        | some (minutes, after) => some (.ok (.moment (.point d c (some minutes)), after))

def scalar (text : List Char) : Except Fault (Taken Value) :=
  if startsWith text "true" then .ok (.bool true, text.drop 4)
  else if startsWith text "false" then .ok (.bool false, text.drop 5)
  else
    match moment? text with
    | some found => found
    | none =>
      let based :=
        match text with
        | '0' :: rest => otherBase? rest
        | _ => none
      match based with
      | some found => .ok found
      | none =>
        match decimal? text with
        | some found => found
        | none =>
          match special? text with
          | some found => .ok found
          | none => .error .malformed

end SourceIndex.Toml
