import ContainerStreams.Json.Basic
import ContainerStreams.Text.LowerCase
import ContainerStreams.Text.Quoted

set_option autoImplicit false

namespace ContainerStreams

/-- Three digits, the first of them not zero. -/
structure StatusCode where
  value : Nat
  in_range : 100 ≤ value ∧ value ≤ 999 := by decide
  deriving DecidableEq, Repr

namespace StatusCode

def ofNat? (value : Nat) : Option StatusCode :=
  if in_range : 100 ≤ value ∧ value ≤ 999 then some ⟨value, in_range⟩ else none

def unauthorized : StatusCode := { value := 401 }
def forbidden : StatusCode := { value := 403 }
def notFound : StatusCode := { value := 404 }
def conflict : StatusCode := { value := 409 }
def unprocessable : StatusCode := { value := 422 }
def internalError : StatusCode := { value := 500 }
def unavailable : StatusCode := { value := 503 }

def phrases : List (Nat × String) :=
  [(100, "Continue"), (101, "Switching Protocols"), (102, "Processing"),
   (200, "OK"), (201, "Created"), (202, "Accepted"), (203, "Non Authoritative Information"),
   (204, "No Content"), (205, "Reset Content"), (206, "Partial Content"), (207, "Multi-Status"),
   (208, "Already Reported"), (226, "IM Used"),
   (300, "Multiple Choices"), (301, "Moved Permanently"), (302, "Found"), (303, "See Other"),
   (304, "Not Modified"), (305, "Use Proxy"), (307, "Temporary Redirect"),
   (308, "Permanent Redirect"),
   (400, "Bad Request"), (401, "Unauthorized"), (402, "Payment Required"), (403, "Forbidden"),
   (404, "Not Found"), (405, "Method Not Allowed"), (406, "Not Acceptable"),
   (407, "Proxy Authentication Required"), (408, "Request Timeout"), (409, "Conflict"),
   (410, "Gone"), (411, "Length Required"), (412, "Precondition Failed"),
   (413, "Payload Too Large"), (414, "URI Too Long"), (415, "Unsupported Media Type"),
   (416, "Range Not Satisfiable"), (417, "Expectation Failed"), (418, "I'm a teapot"),
   (421, "Misdirected Request"), (422, "Unprocessable Entity"), (423, "Locked"),
   (424, "Failed Dependency"), (426, "Upgrade Required"), (428, "Precondition Required"),
   (429, "Too Many Requests"), (431, "Request Header Fields Too Large"),
   (451, "Unavailable For Legal Reasons"),
   (500, "Internal Server Error"), (501, "Not Implemented"), (502, "Bad Gateway"),
   (503, "Service Unavailable"), (504, "Gateway Timeout"), (505, "HTTP Version Not Supported"),
   (506, "Variant Also Negotiates"), (507, "Insufficient Storage"), (508, "Loop Detected"),
   (510, "Not Extended"), (511, "Network Authentication Required")]

def text (code : StatusCode) : String :=
  toString code.value ++ " " ++ (phrases.lookup code.value).getD "<unknown status code>"

end StatusCode

/-- A reason the library does not know by name is unknown. -/
inductive StatusReason where
  | notFound
  | alreadyExists
  | conflict
  | forbidden
  | unauthorized
  | invalid
  | cancelled
  | unknown
  deriving DecidableEq, Repr

structure StatusDetails where
  name : String := ""
  kind : String := ""
  deriving DecidableEq, Repr

namespace StatusReason

def name : StatusReason → String
  | .notFound => "NotFound"
  | .alreadyExists => "AlreadyExists"
  | .conflict => "Conflict"
  | .forbidden => "Forbidden"
  | .unauthorized => "Unauthorized"
  | .invalid => "Invalid"
  | .cancelled => "Cancelled"
  | .unknown => "Unknown"

def known : List StatusReason :=
  [.notFound, .alreadyExists, .conflict, .forbidden, .unauthorized, .invalid, .cancelled]

def ofName (name : String) : StatusReason :=
  (known.find? fun reason => reason.name = name).getD .unknown

/-- A reason is its name, which may also stand as the only key of an object, with null. -/
def ofJson? : Json → Option StatusReason
  | .string name => some (ofName name)
  | .object [(name, .null)] => some (ofName name)
  | _ => none

def toJson (reason : StatusReason) : Json :=
  .string reason.name

theorem ofName_name (reason : StatusReason) : ofName reason.name = reason := by
  cases reason <;> decide

end StatusReason

namespace StatusDetails

def ofJson? (value : Json) : Option StatusDetails := do
  let record ← value.record? ["name", "kind"]
  return {
    name := ← record.optional? "name" Json.text? ""
    kind := ← record.optional? "kind" Json.text? "" }

/-- The members are sorted by name. -/
def toJson (details : StatusDetails) : Json :=
  .object [("kind", .string details.kind), ("name", .string details.name)]

end StatusDetails

/-- What kind of failure it is, is told by its reason alone. Its status is independent of that. -/
structure ApiError where
  status : StatusCode
  reason : StatusReason
  message : String
  details : Option StatusDetails := none
  deriving DecidableEq, Repr

namespace ApiError

def about (error : ApiError) (kind name : String) : ApiError :=
  { error with details := some { name, kind } }

def notFound (kind name : String) : ApiError :=
  { status := .notFound, reason := .notFound
    message := kind ++ " " ++ Text.quoted name ++ " not found" : ApiError }.about kind name

def alreadyExists (kind name : String) : ApiError :=
  { status := .conflict, reason := .alreadyExists
    message := kind ++ " " ++ Text.quoted name ++ " already exists" : ApiError }.about kind name

def conflict (kind name message : String) : ApiError :=
  { status := .conflict, reason := .conflict, message : ApiError }.about kind name

def forbidden (message : String) : ApiError :=
  { status := .forbidden, reason := .forbidden, message }

def unauthorized (message : String) : ApiError :=
  { status := .unauthorized, reason := .unauthorized, message }

def invalid (message : String) : ApiError :=
  { status := .unprocessable, reason := .invalid, message }

def quotaExceeded (resource : String) : ApiError :=
  forbidden ("exceeded quota: " ++ resource ++ ", requested: count/" ++ resource ++ "=1")

/-- The answer to every call of a cancelled request. -/
def cancelled : ApiError :=
  { status := .unavailable, reason := .cancelled, message := "request context cancelled" }

def internal (message : String) : ApiError :=
  { status := .internalError, reason := .unknown, message }

def isNotFound (error : ApiError) : Bool := error.reason = .notFound
def isAlreadyExists (error : ApiError) : Bool := error.reason = .alreadyExists
def isConflict (error : ApiError) : Bool := error.reason = .conflict
def isForbidden (error : ApiError) : Bool := error.reason = .forbidden
def isUnauthorized (error : ApiError) : Bool := error.reason = .unauthorized

/-- Whether an object was refused for a quota or a limit range, which only the wording tells. -/
def isQuotaExceeded (error : ApiError) : Bool :=
  match error.reason with
  | .forbidden =>
    Text.mentions error.message "exceeded quota" ||
      Text.mentions error.message "status unknown for quota"
  | .invalid => Text.mentions error.message "exceeds the maximum limit"
  | _ => false

def detailsKind? (error : ApiError) : Option String := error.details.map (·.kind)
def detailsName? (error : ApiError) : Option String := error.details.map (·.name)

def text (error : ApiError) : String :=
  error.status.text ++ " " ++ error.reason.name ++ ": " ++ error.message

def reasonOfStatus (status : StatusCode) : StatusReason :=
  if status = .notFound then .notFound
  else if status = .conflict then .conflict
  else if status = .forbidden then .forbidden
  else if status = .unauthorized then .unauthorized
  else if status = .unprocessable then .invalid
  else .unknown

/-- Reads the body of a failed response. A code that is none counts as an internal error. -/
def ofJson? (value : Json) : Option ApiError := do
  let record ← value.record? ["code", "reason", "message", "details"]
  let code ← record.optional? "code" Json.word16? 0
  let reason ← record.optional? "reason" (Json.nullable? StatusReason.ofJson?) none
  let message ← record.optional? "message" Json.text? ""
  let details ← record.optional? "details" (Json.nullable? StatusDetails.ofJson?) none
  let status := (StatusCode.ofNat? code).getD .internalError
  return { status, reason := reason.getD (reasonOfStatus status), message, details }

end ApiError

end ContainerStreams
