import ContainerStreams.Json.Token

set_option autoImplicit false

namespace ContainerStreams.Json

def escapeCode (code : Nat) : List Char :=
  ['\\', 'u', '0', '0', Nat.digitChar (code / 16), Nat.digitChar (code % 16)]

/-- Only quotes, backslashes and controls are escaped. -/
def escapeChar (c : Char) : List Char :=
  match c with
  | '"' => ['\\', '"']
  | '\\' => ['\\', '\\']
  | '\x08' => ['\\', 'b']
  | '\x0c' => ['\\', 'f']
  | '\n' => ['\\', 'n']
  | '\r' => ['\\', 'r']
  | '\t' => ['\\', 't']
  | c => if c.toNat < 0x20 then escapeCode c.toNat else [c]

def Number.text : Number → List Char
  | .integer negative magnitude => (if negative then ['-'] else []) ++ Text.decimal magnitude
  | .real text => text

/-- How a token is written. A string token without a text has no spelling and is left empty. -/
def Token.text : Token → List Char
  | .openBrace => ['{']
  | .closeBrace => ['}']
  | .openBracket => ['[']
  | .closeBracket => [']']
  | .colon => [':']
  | .comma => [',']
  | .null => ['n', 'u', 'l', 'l']
  | .bool true => ['t', 'r', 'u', 'e']
  | .bool false => ['f', 'a', 'l', 's', 'e']
  | .number value => value.text
  | .string text => '"' :: (text.getD "").toList.flatMap escapeChar ++ ['"']

mutual

/-- The tokens of a value. An unreadable value is written as null. -/
def tokens : Json → List Token
  | .null => [.null]
  | .bool value => [.bool value]
  | .number value => [.number value]
  | .string text => [.string (some text)]
  | .array items => .openBracket :: itemTokens items ++ [.closeBracket]
  | .object members => .openBrace :: memberTokens members ++ [.closeBrace]
  | .unreadable => [.null]

def itemTokens : List Json → List Token
  | [] => []
  | [item] => tokens item
  | item :: rest => tokens item ++ .comma :: itemTokens rest

def memberTokens : List (String × Json) → List Token
  | [] => []
  | [(key, value)] => .string (some key) :: .colon :: tokens value
  | (key, value) :: rest =>
    .string (some key) :: .colon :: tokens value ++ .comma :: memberTokens rest

end

def render (value : Json) : String :=
  String.ofList (value.tokens.flatMap Token.text)

end ContainerStreams.Json
