import ContainerStreams.Text.CodeTable
import ContainerStreams.Text.Decimal
import ContainerStreams.Time.Instant

/-!
Date-times in the form of RFC 3339. They are written in UTC with as few digits of a second as are
exact, in groups of three. They are read with any offset of less than a day, and more freely than
they are written: numbers need not be padded, and blanks may stand around the parts.
-/

set_option autoImplicit false

namespace ContainerStreams

namespace Text

/-- The property White_Space. -/
def blankTable : CodeTable :=
  [(0x9, 0xd), (0x20, 0x20), (0x85, 0x85), (0xa0, 0xa0), (0x1680, 0x1680), (0x2000, 0x200a),
   (0x2028, 0x2029), (0x202f, 0x202f), (0x205f, 0x205f), (0x3000, 0x3000)]

theorem ascending_blankTable : blankTable.ascending 0 = true := by
  decide

def isBlank (c : Char) : Bool :=
  blankTable.contains c.toNat

def skipBlanks (text : List Char) : List Char :=
  text.dropWhile isBlank

theorem skipBlanks_cons (c : Char) (rest : List Char) (visible : isBlank c = false) :
    skipBlanks (c :: rest) = c :: rest := by
  simp [skipBlanks, visible]

end Text

namespace Rfc3339

open Text

/-- A number of one digit or more, and of `width` digits at most, at the beginning of the text. -/
def takeNumber? (width : Nat) (text : List Char) : Option (Nat × List Char) :=
  let digits := (text.take width).takeWhile Char.isDigit
  if digits.isEmpty then none else some (decimalValue digits, text.drop digits.length)

def takeField? (text : List Char) : Option (Nat × List Char) :=
  takeNumber? 2 (skipBlanks text)

/-- A year, after blanks. One without a sign has at most four digits. -/
def takeYear? (text : List Char) : Option (Int × List Char) :=
  match skipBlanks text with
  | '+' :: rest => (takeNumber? rest.length rest).map fun (year, rest) => ((year : Int), rest)
  | '-' :: rest => (takeNumber? rest.length rest).map fun (year, rest) => (-(year : Int), rest)
  | text => (takeNumber? 4 text).map fun (year, rest) => ((year : Int), rest)

def takeMark? (mark : Char) (text : List Char) : Option (List Char) :=
  match skipBlanks text with
  | c :: rest => if c = mark then some rest else none
  | [] => none

def takeDate? (text : List Char) : Option (Date × List Char) := do
  let (year, text) ← takeYear? text
  let text ← takeMark? '-' text
  let (month, text) ← takeField? text
  let text ← takeMark? '-' text
  let (day, text) ← takeField? text
  return (⟨year, month, day⟩, text)

def takeDivider? : List Char → Option (List Char)
  | c :: rest => if c = 'T' || c = 't' || c = ' ' then some rest else none
  | [] => none

def takeClock? (text : List Char) : Option (Nat × List Char) := do
  let (hour, text) ← takeField? text
  let text ← takeMark? ':' text
  let (minute, text) ← takeField? text
  if minute < 60 then some (60 * hour + minute, text) else none

/-- The nanoseconds of a fraction. Digits behind the ninth are dropped, missing ones are zero. -/
def nanoseconds (digits : List Char) : Nat :=
  decimalValue ((digits ++ List.replicate 9 '0').take 9)

def takeFraction? : List Char → Option (Nat × List Char)
  | '.' :: rest =>
    let digits := rest.takeWhile Char.isDigit
    if digits.isEmpty then none else some (nanoseconds digits, rest.dropWhile Char.isDigit)
  | text => some (0, text)

def takePair? : List Char → Option (Nat × List Char)
  | a :: b :: rest =>
    if a.isDigit && b.isDigit then some (decimalValue [a, b], rest) else none
  | _ => none

/-- Hours and minutes after the sign of an offset, as minutes. A colon between them may be left
out. -/
def takeOffsetMinutes? (text : List Char) : Option (Nat × List Char) := do
  let (hours, text) ← takePair? text
  let (minutes, text) ← takePair? (text.dropWhile fun c => c = ':' || isBlank c)
  if hours < 24 ∧ minutes < 60 then some (60 * hours + minutes, text) else none

/-- The offset from UTC, after blanks. UTC itself has a letter and a name, in either case. -/
def takeOffset? (text : List Char) : Option (Int × List Char) :=
  match skipBlanks text with
  | '+' :: rest => (takeOffsetMinutes? rest).map fun (offset, rest) => ((offset : Int), rest)
  | '-' :: rest => (takeOffsetMinutes? rest).map fun (offset, rest) => (-(offset : Int), rest)
  | '\u2212' :: rest => (takeOffsetMinutes? rest).map fun (offset, rest) => (-(offset : Int), rest)
  | text =>
    match text.map Char.toLower with
    | 'z' :: _ => some (0, text.drop 1)
    | 'u' :: 't' :: 'c' :: _ => some (0, text.drop 3)
    | _ => none

def ofChars? (text : List Char) : Option Instant := do
  let (date, text) ← takeDate? text
  let text ← takeDivider? text
  let (minute, text) ← takeClock? text
  let text ← takeMark? ':' text
  let (second, text) ← takeField? text
  let (nanosecond, text) ← takeFraction? text
  let (offset, text) ← takeOffset? text
  if text.all isBlank then Instant.ofLocal? date minute second nanosecond offset else none

def parse? (text : String) : Option Instant :=
  ofChars? text.toList

/-- A year of more than four digits, or before the year zero, is written with its sign. -/
def yearText (year : Int) : List Char :=
  let digits := paddedDecimal 4 year.natAbs
  if year < 0 then '-' :: digits
  else if 9999 < year then '+' :: digits
  else digits

/-- The fewest of 0, 3, 6 or 9 digits that are exact, after a point. -/
def fractionText (nanosecond : Nat) : List Char :=
  if nanosecond = 0 then []
  else if nanosecond % 1000000 = 0 then '.' :: paddedDecimal 3 (nanosecond / 1000000)
  else if nanosecond % 1000 = 0 then '.' :: paddedDecimal 6 (nanosecond / 1000)
  else '.' :: paddedDecimal 9 nanosecond

def chars (instant : Instant) : List Char :=
  yearText instant.date.year ++ '-' :: paddedDecimal 2 instant.date.month ++
    '-' :: paddedDecimal 2 instant.date.day ++
    'T' :: paddedDecimal 2 (instant.minute / 60) ++
    ':' :: paddedDecimal 2 (instant.minute % 60) ++
    ':' :: paddedDecimal 2 instant.second ++
    fractionText instant.nanosecond ++ ['Z']

def render (instant : Instant) : String :=
  String.ofList (chars instant)

end Rfc3339

end ContainerStreams
