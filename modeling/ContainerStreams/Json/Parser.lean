import ContainerStreams.Json.Token

set_option autoImplicit false

namespace ContainerStreams.Json

namespace Parser

/-- The members of an object that have been read, last first. A key without a text makes the
object unreadable. -/
abbrev Members := List (Option String × Json)

/-- An array or object whose end is still to come, with what it holds so far, last first. -/
inductive Frame where
  | array (items : List Json)
  | object (members : Members) (key : Option String)

/-- The open arrays and objects are kept on a stack, so that a value may be nested to any depth. -/
inductive State where
  | value (stack : List Frame)
  | firstItem (stack : List Frame)
  | firstKey (stack : List Frame)
  | key (members : Members) (stack : List Frame)
  | colon (members : Members) (key : Option String) (stack : List Frame)
  | complete (value : Json) (stack : List Frame)

def closeObject (members : Members) : Json :=
  match members.reverse.mapM (fun member => member.1.map fun key => (key, member.2)) with
  | some members => .object members
  | none => .unreadable

/-- A token where a value must begin. -/
def beginValue (stack : List Frame) : Token → Option State
  | .openBrace => some (.firstKey stack)
  | .openBracket => some (.firstItem stack)
  | .null => some (.complete .null stack)
  | .bool value => some (.complete (.bool value) stack)
  | .number value => some (.complete (.number value) stack)
  | .string (some text) => some (.complete (.string text) stack)
  | .string none => some (.complete .unreadable stack)
  | _ => none

def step (state : State) (token : Token) : Option State :=
  match state, token with
  | .value stack, token => beginValue stack token
  | .firstItem stack, .closeBracket => some (.complete (.array []) stack)
  | .firstItem stack, token => beginValue (.array [] :: stack) token
  | .firstKey stack, .closeBrace => some (.complete (.object []) stack)
  | .firstKey stack, .string key => some (.colon [] key stack)
  | .key members stack, .string key => some (.colon members key stack)
  | .colon members key stack, .colon => some (.value (.object members key :: stack))
  | .complete item (.array items :: stack), .comma =>
    some (.value (.array (item :: items) :: stack))
  | .complete item (.array items :: stack), .closeBracket =>
    some (.complete (.array (item :: items).reverse) stack)
  | .complete value (.object members key :: stack), .comma =>
    some (.key ((key, value) :: members) stack)
  | .complete value (.object members key :: stack), .closeBrace =>
    some (.complete (closeObject ((key, value) :: members)) stack)
  | _, _ => none

def run (state : State) (tokens : List Token) : Option State :=
  tokens.foldlM step state

end Parser

def ofTokens? (tokens : List Token) : Option Json :=
  match Parser.run (.value []) tokens with
  | some (.complete value []) => some value
  | _ => none

def parse? (text : String) : Option Json :=
  (Token.ofText? text.toList).bind ofTokens?

end ContainerStreams.Json
