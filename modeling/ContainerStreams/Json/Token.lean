import ContainerStreams.Json.Basic
import ContainerStreams.Text.Decimal

set_option autoImplicit false

namespace ContainerStreams.Json

/-- A string token has no text when it holds an escape for half a surrogate pair. -/
inductive Token where
  | openBrace
  | closeBrace
  | openBracket
  | closeBracket
  | colon
  | comma
  | null
  | bool (value : Bool)
  | number (value : Number)
  | string (text : Option String)
  deriving DecidableEq, Repr

namespace Token

/-- What one character or escape of a string stands for: a character, or half of a pair. -/
inductive CodeUnit where
  | char (c : Char)
  | surrogate (code : Nat)
  deriving DecidableEq, Repr

def isHighSurrogate (code : Nat) : Bool := 0xd800 ≤ code && code < 0xdc00
def isLowSurrogate (code : Nat) : Bool := 0xdc00 ≤ code && code < 0xe000

def CodeUnit.ofCode (code : Nat) : CodeUnit :=
  if isHighSurrogate code || isLowSurrogate code then .surrogate code else .char (Char.ofNat code)

/-- Joins pairs of halves, high before low. A half outside a pair stands for nothing. -/
def joinUnits (done : List Char) : List CodeUnit → Option (List Char)
  | [] => some done.reverse
  | .char c :: rest => joinUnits (c :: done) rest
  | .surrogate high :: .surrogate low :: rest =>
    if isHighSurrogate high && isLowSurrogate low then
      let code := 0x10000 + (high - 0xd800) * 0x400 + (low - 0xdc00)
      joinUnits (Char.ofNat code :: done) rest
    else none
  | .surrogate _ :: _ => none

def hexValue? (c : Char) : Option Nat :=
  if c.isDigit then some (c.toNat - '0'.toNat)
  else if 'a' ≤ c && c ≤ 'f' then some (c.toNat - 'a'.toNat + 10)
  else if 'A' ≤ c && c ≤ 'F' then some (c.toNat - 'A'.toNat + 10)
  else none

def hexCode? (a b c d : Char) : Option Nat :=
  match hexValue? a, hexValue? b, hexValue? c, hexValue? d with
  | some a, some b, some c, some d => some (((a * 16 + b) * 16 + c) * 16 + d)
  | _, _, _, _ => none

def escaped? : Char → Option Char
  | '"' => some '"'
  | '\\' => some '\\'
  | '/' => some '/'
  | 'b' => some '\x08'
  | 'f' => some '\x0c'
  | 'n' => some '\n'
  | 'r' => some '\r'
  | 't' => some '\t'
  | _ => none

/-- The units of a string up to its closing quote, after those already read, and the text after
the quote. -/
def scanUnits (done : List CodeUnit) : List Char → Option (List CodeUnit × List Char)
  | [] => none
  | '"' :: rest => some (done.reverse, rest)
  | '\\' :: 'u' :: a :: b :: c :: d :: rest =>
    match hexCode? a b c d with
    | some code => scanUnits (.ofCode code :: done) rest
    | none => none
  | '\\' :: escape :: rest =>
    match escaped? escape with
    | some c => scanUnits (.char c :: done) rest
    | none => none
  | c :: rest =>
    if c = '\\' || c.toNat < 0x20 then none else scanUnits (.char c :: done) rest

def scanFraction : List Char → Option (List Char × List Char)
  | '.' :: rest =>
    let digits := rest.takeWhile Char.isDigit
    if digits.isEmpty then none else some ('.' :: digits, rest.dropWhile Char.isDigit)
  | text => some ([], text)

def scanExponent : List Char → Option (List Char × List Char)
  | [] => some ([], [])
  | e :: rest =>
    if e = 'e' || e = 'E' then
      let sign := rest.takeWhile (fun c => c = '+' || c = '-')
      let unsigned := rest.dropWhile (fun c => c = '+' || c = '-')
      let digits := unsigned.takeWhile Char.isDigit
      if digits.isEmpty || 1 < sign.length then none
      else some (e :: sign ++ digits, unsigned.dropWhile Char.isDigit)
    else some ([], e :: rest)

def scanUnsigned (negative : Bool) (text : List Char) : Option (Number × List Char) :=
  let digits := text.takeWhile Char.isDigit
  if digits.isEmpty || (digits.head? = some '0' && 1 < digits.length) then none
  else do
    let (fraction, rest) ← scanFraction (text.dropWhile Char.isDigit)
    let (exponent, rest) ← scanExponent rest
    if fraction.isEmpty && exponent.isEmpty then
      return (.integer negative (Text.decimalValue digits), rest)
    else
      let sign := if negative then ['-'] else []
      return (.real (sign ++ digits ++ fraction ++ exponent), rest)

def scanNumber : List Char → Option (Number × List Char)
  | '-' :: rest => scanUnsigned true rest
  | text => scanUnsigned false text

/-- The token at the very beginning of the text, and the text after it. Comments, leading zeros and
bare controls within a string are refused. -/
def scan : List Char → Option (Token × List Char)
  | '{' :: rest => some (.openBrace, rest)
  | '}' :: rest => some (.closeBrace, rest)
  | '[' :: rest => some (.openBracket, rest)
  | ']' :: rest => some (.closeBracket, rest)
  | ':' :: rest => some (.colon, rest)
  | ',' :: rest => some (.comma, rest)
  | 'n' :: 'u' :: 'l' :: 'l' :: rest => some (.null, rest)
  | 't' :: 'r' :: 'u' :: 'e' :: rest => some (.bool true, rest)
  | 'f' :: 'a' :: 'l' :: 's' :: 'e' :: rest => some (.bool false, rest)
  | '"' :: rest =>
    (scanUnits [] rest).map fun (units, rest) =>
      (.string ((joinUnits [] units).map String.ofList), rest)
  | text => (scanNumber text).map fun (value, rest) => (.number value, rest)

def isBlank (c : Char) : Bool :=
  c = ' ' || c = '\t' || c = '\n' || c = '\r'

/-- Reads tokens in at most the given number of steps, each of which takes a character at least. -/
def scanAll (done : List Token) : Nat → List Char → Option (List Token)
  | _, [] => some done.reverse
  | 0, _ :: _ => none
  | steps + 1, c :: rest =>
    if isBlank c then scanAll done steps rest
    else match scan (c :: rest) with
      | some (token, rest) => scanAll (token :: done) steps rest
      | none => none

def ofText? (text : List Char) : Option (List Token) :=
  scanAll [] text.length text

end Token

end ContainerStreams.Json
