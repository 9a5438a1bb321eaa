import ContainerStreams.SortedMap

set_option autoImplicit false

namespace ContainerStreams

/-- An integer is a number written without fraction and exponent; minus zero is one of its own.
All other numbers are kept as their text. -/
inductive Json.Number where
  | integer (negative : Bool) (magnitude : Nat)
  | real (text : List Char)
  deriving DecidableEq, Repr

/-- The members of an object keep their order and their repetitions. An unreadable value is
grammatical, but a string in it that would have to be known holds an escape for half a surrogate
pair. It can be passed over and nothing else. -/
inductive Json where
  | null
  | bool (value : Bool)
  | number (value : Json.Number)
  | string (text : String)
  | array (items : List Json)
  | object (members : List (String × Json))
  | unreadable
  deriving Inhabited, Repr

def Json.ofInt (n : Int) : Json :=
  .number (.integer (n < 0) n.natAbs)

def Json.members : Json → List (String × Json)
  | .object members => members
  | _ => []

namespace Json

def bool? : Json → Option Bool
  | .bool value => some value
  | _ => none

def text? : Json → Option String
  | .string text => some text
  | _ => none

/-- An integer, which minus zero is not. -/
def int? : Json → Option Int
  | .number (.integer true 0) => none
  | .number (.integer true magnitude) => some (-(magnitude : Int))
  | .number (.integer false magnitude) => some magnitude
  | _ => none

def int64? (value : Json) : Option Int64 := do
  let n ← value.int?
  if Int64.minValue.toInt ≤ n ∧ n ≤ Int64.maxValue.toInt then some (Int64.ofInt n) else none

def word16? (value : Json) : Option Nat := do
  let n ← value.int?
  if 0 ≤ n ∧ n < 65536 then some n.toNat else none

def list? {α : Type} (item? : Json → Option α) : Json → Option (List α)
  | .array items => items.mapM item?
  | _ => none

/-- Null for a value that is not there. -/
def nullable? {α : Type} (value? : Json → Option α) : Json → Option (Option α)
  | .null => some none
  | value => (value? value).map some

/-- A map is written as an object. Of several members with one key the last one counts, but all
of them must be readable. -/
def map? {α : Type} (value? : Json → Option α) : Json → Option (SortedMap α)
  | .object members => do
    let entries ← members.mapM fun member => (value? member.2).map fun value => (member.1, value)
    return SortedMap.ofList entries
  | _ => none

structure Record where
  fields : List (String × Json)

/-- The fields of the given names. A field given twice makes the record unreadable, members of other
names are passed over, and an array has the fields in the order in which they are named. -/
def record? (names : List String) : Json → Option Record
  | .object members =>
    let known := members.filter fun member => names.contains member.1
    if (known.map (·.1)).Nodup then some ⟨known⟩ else none
  | .array items => if items.length ≤ names.length then some ⟨names.zip items⟩ else none
  | _ => none

namespace Record

variable {α : Type}

def required? (record : Record) (name : String) (value? : Json → Option α) : Option α :=
  (record.fields.lookup name).bind value?

/-- The value of a field that may be missing, and then has a value of its own. -/
def optional? (record : Record) (name : String) (value? : Json → Option α) (missing : α) :
    Option α :=
  match record.fields.lookup name with
  | some value => value? value
  | none => some missing

end Record

def ofMap {α : Type} (ofValue : α → Json) (map : SortedMap α) : Json :=
  .object (map.entries.map fun entry => (entry.1, ofValue entry.2))

def ofOption {α : Type} (ofValue : α → Json) : Option α → Json
  | none => .null
  | some value => ofValue value

def ofList {α : Type} (ofItem : α → Json) (items : List α) : Json :=
  .array (items.map ofItem)

end Json

end ContainerStreams
