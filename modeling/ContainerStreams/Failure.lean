import ContainerStreams.Digest.Basic
import ContainerStreams.Status

set_option autoImplicit false

namespace ContainerStreams

inductive ImageIdError where
  | notFound (imageId : String)
  | ambiguous (imageId : String) (images : List String)
  deriving DecidableEq, Repr

def ImageIdError.message : ImageIdError → String
  | .notFound imageId => "no image in the stream history matches " ++ Text.quoted imageId
  | .ambiguous imageId images =>
    "multiple images match the prefix " ++ Text.quoted imageId ++ ": " ++
      ", ".intercalate images

inductive LookupFailure where
  | notFound (error : ApiError)
  | forbidden (error : ApiError)
  | unknown (error : ApiError)
  deriving DecidableEq, Repr

namespace LookupFailure

def ofApiError (error : ApiError) : LookupFailure :=
  if error.isNotFound then .notFound error
  else if error.isForbidden then .forbidden error
  else .unknown error

def message : LookupFailure → String
  | .notFound error => "image stream not found: " ++ error.text
  | .forbidden error => "access to image stream forbidden: " ++ error.text
  | .unknown error => "unable to get image stream: " ++ error.text

end LookupFailure

inductive FailureCode where
  | unknown
  | notFound
  | imageNotFound
  | forbidden
  deriving DecidableEq, Repr

def FailureCode.text : FailureCode → String
  | .unknown => "ImageStream:Unknown"
  | .notFound => "ImageStream:NotFound"
  | .imageNotFound => "ImageStream:ImageNotFound"
  | .forbidden => "ImageStream:Forbidden"

def FailureCode.describe (code : FailureCode) (message : String) : String :=
  code.text ++ " " ++ message

/-- The operations that only need the stream itself. -/
inductive StreamQuery where
  | exists
  | tags
  | resolveImageId
  | tagIsInsecure
  | localRegistry
  | candidates
  deriving DecidableEq, Repr

def StreamQuery.name : StreamQuery → String
  | .exists => "exists"
  | .tags => "tags"
  | .resolveImageId => "resolve_image_id"
  | .tagIsInsecure => "tag_is_insecure"
  | .localRegistry => "local_registry"
  | .candidates => "identify_candidate_repositories"

/-- A mapping is written once, and once more after its stream has been provisioned. -/
inductive Attempt where
  | first
  | second
  deriving DecidableEq, Repr

/-- A failure is named by its cause. Its public code and its wording follow from that, the wording
together with the name of the stream. -/
inductive Failure where
  | streamUnavailable (query : StreamQuery) (cause : LookupFailure)
  | imageUnresolved (imageId : String) (cause : ImageIdError)
  | imageUnavailable (digest : ContentDigest) (cause : ApiError)
  | layersUnavailable (cause : LookupFailure)
  | parentMissing (digest : ContentDigest)
  | parentUnresolved (parent : String) (cause : Failure)
  | parentUnreadable (pullReference : String) (cause : ReferenceError)
  | secretsUnavailable (cause : ApiError)
  | limitRangesUnavailable (cause : ApiError)
  | mappingFailed (attempt : Attempt) (cause : ApiError)
  | provisioningFailed (cause : ApiError)
  deriving DecidableEq, Repr

namespace Failure

def isMissingProject (error : ApiError) : Bool :=
  error.isNotFound && error.detailsKind?.any fun kind => kind.toLower = "namespaces"

/-- The requesting user may not create the stream, or has no quota left for it. -/
def isDenied (error : ApiError) : Bool :=
  error.isForbidden || error.isUnauthorized || error.isQuotaExceeded

def code : Failure → FailureCode
  | .streamUnavailable _ (.notFound _) => .notFound
  | .streamUnavailable _ (.forbidden _) => .forbidden
  | .streamUnavailable _ (.unknown _) => .unknown
  | .imageUnresolved _ _ => .imageNotFound
  | .imageUnavailable _ cause => if cause.isNotFound then .imageNotFound else .unknown
  | .layersUnavailable _ => .unknown
  | .parentMissing _ => .imageNotFound
  | .parentUnresolved _ _ => .unknown
  | .parentUnreadable _ _ => .unknown
  | .secretsUnavailable _ => .unknown
  | .limitRangesUnavailable _ => .unknown
  | .mappingFailed .first cause =>
    if cause.isQuotaExceeded || isMissingProject cause then .forbidden else .unknown
  | .mappingFailed .second cause => if cause.isQuotaExceeded then .forbidden else .unknown
  | .provisioningFailed cause => if isDenied cause then .forbidden else .unknown

/-- What was being done when the failure came, in front of the name of the stream. -/
def activity : Failure → String
  | .streamUnavailable query _ => query.name ++ ": failed to get image stream "
  | .imageUnresolved imageId _ =>
    "resolve_image_id: unable to resolve image id " ++ imageId ++ " in image stream "
  | .imageUnavailable digest cause =>
    let verb := if cause.isNotFound then "find" else "get"
    "get_image: unable to " ++ verb ++ " image digest " ++ digest.text ++ " in "
  | .layersUnavailable _ => "resolve_upstream_ref: failed to get layers for image stream "
  | .parentMissing digest =>
    "resolve_upstream_ref: unable to find parent for image " ++ digest.text ++ " in image stream "
  | .parentUnresolved parent _ =>
    "resolve_upstream_ref: unable to get parent event " ++ parent ++ " in image stream "
  | .parentUnreadable pullReference _ =>
    "resolve_upstream_ref: unable to parse parent image reference " ++ pullReference ++
      " in image stream "
  | .secretsUnavailable _ => "secrets: error getting secrets for repository "
  | .limitRangesUnavailable _ => "limit_range_list: failed to list limit ranges for "
  | .mappingFailed .first cause =>
    if cause.isQuotaExceeded then "create_mapping: quota exceeded during creation of "
    else "create_mapping: error creating "
  | .mappingFailed .second cause =>
    if cause.isQuotaExceeded then "create_mapping: quota exceeded during second creation of "
    else "create_mapping: error during second creation of "
  | .provisioningFailed cause =>
    if isDenied cause then "create_mapping: denied creating image stream "
    else "create_mapping: error auto provisioning image stream "

def message (failure : Failure) (stream : String) : String :=
  let after := match failure with
    | .mappingFailed _ _ => " image stream mapping"
    | _ => ""
  failure.activity ++ stream ++ after

def text (failure : Failure) (stream : String) : String :=
  failure.code.describe (failure.message stream)

end Failure

inductive Cause where
  | api (error : ApiError)
  | lookup (failure : LookupFailure)
  | reference (error : ReferenceError)
  | imageId (error : ImageIdError)
  | stream (failure : Failure)
  deriving DecidableEq, Repr

def Cause.text (stream : String) : Cause → String
  | .api error => error.text
  | .lookup failure => failure.message
  | .reference error => error.message
  | .imageId error => error.message
  | .stream failure => failure.text stream

/-- The chain of causes, outermost first. -/
def Failure.causes : Failure → List Cause
  | .streamUnavailable _ cause => [.lookup cause]
  | .imageUnresolved _ cause => [.imageId cause]
  | .imageUnavailable _ cause => [.api cause]
  | .layersUnavailable cause => [.lookup cause]
  | .parentMissing _ => []
  | .parentUnresolved _ cause => .stream cause :: cause.causes
  | .parentUnreadable _ cause => [.reference cause]
  | .secretsUnavailable cause => [.api cause]
  | .limitRangesUnavailable cause => [.api cause]
  | .mappingFailed _ cause => [.api cause]
  | .provisioningFailed cause => [.api cause]

end ContainerStreams
