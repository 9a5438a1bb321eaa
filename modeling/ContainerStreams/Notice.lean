import ContainerStreams.Failure

set_option autoImplicit false

namespace ContainerStreams

/-- Where a stream records its own repository. -/
inductive Location where
  | inCluster
  | publicRoute
  deriving DecidableEq, Repr

def Location.field : Location → String
  | .inCluster => "dockerImageRepository"
  | .publicRoute => "publicDockerImageRepository"

inductive Severity where
  | warning
  | error
  deriving DecidableEq, Repr

def Severity.label : Severity → String
  | .warning => "WARN"
  | .error => "ERROR"

inductive StoreError where
  | full (projects : Nat)
  deriving DecidableEq, Repr

def StoreError.message : StoreError → String
  | .full projects =>
    "project object store is full (" ++ toString projects ++ " namespaces)"

/-- What is noted beside the answer of an operation, for those who run the registry. -/
inductive Notice where
  | unreadableLocation (location : Location) (text : String) (cause : ReferenceError)
  | unreadableDigest (image : String) (cause : ReferenceError)
  | layersUnavailable (stream : String) (cause : LookupFailure)
  | limitRangesNotStored (cause : StoreError)
  deriving DecidableEq, Repr

namespace Notice

def severity : Notice → Severity
  | .unreadableLocation _ _ _ => .warning
  | .unreadableDigest _ _ => .error
  | .layersUnavailable _ _ => .error
  | .limitRangesNotStored _ => .error

def message : Notice → String
  | .unreadableLocation location text cause =>
    "unable to parse " ++ location.field ++ " " ++ Text.quoted text ++ ": " ++ cause.message
  | .unreadableDigest image cause => "bad digest " ++ image ++ ": " ++ cause.message
  | .layersUnavailable stream cause =>
    "has_blob: unable to get layers for image stream " ++ stream ++ ": " ++ cause.message
  | .limitRangesNotStored cause =>
    "limit_range_list: failed to cache limit range list: " ++ cause.message

def text (notice : Notice) : String :=
  notice.severity.label ++ " " ++ notice.message

end Notice

end ContainerStreams
