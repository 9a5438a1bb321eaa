import ContainerStreams.Access.Basic
import ContainerStreams.History
import ContainerStreams.Pullthrough.Candidates

set_option autoImplicit false

namespace ContainerStreams.StreamAccess

variable {σ : Type} [ControlPlane σ]

/-- Whether the stream exists. Only a stream that is not found does not; one that cannot be read
for another reason is a failure. -/
def streamExists (access : StreamAccess) : Action σ Failure Bool := ExceptT.mk do
  match ← access.fetchStream.run with
  | .ok _ => return .ok true
  | .error (.notFound _) => return .ok false
  | .error cause => return .error (.streamUnavailable .exists cause)

/-- The tags whose images are not named by a digest are noted. -/
def tagNotices (stream : ImageStream) : List Notice :=
  stream.heads.filterMap fun (_, event) =>
    match ContentDigest.parse event.image with
    | .ok _ => none
    | .error cause => some (.unreadableDigest event.image cause)

def tags (access : StreamAccess) : Action σ Failure (SortedMap ContentDigest) := do
  let stream ← access.streamFor .tags
  modify (Scope.noting (tagNotices stream))
  return stream.currentTags

/-- Whether the digest is a layer, a manifest or an image configuration of the stream, and the
layers if they could be fetched. If they could not, that is noted and the digest is not found. -/
def hasBlob (access : StreamAccess) (digest : ContentDigest) :
    StateM (Scope σ) (Bool × Option StreamLayers) := do
  match ← access.fetchLayers.run with
  | .ok layers => return (layers.hasBlob digest.text, some layers)
  | .error cause =>
    modify (Scope.noting [.layersUnavailable access.reference cause])
    return (false, none)

/-- Whether insecure transport is allowed for an image, under a tag or under the tag that recorded
it last. -/
def tagIsInsecure (access : StreamAccess) (tag : Option String) (digest : ContentDigest) :
    Action σ Failure Bool := do
  let stream ← access.streamFor .tagIsInsecure
  return stream.allowsInsecure tag digest

def siteOf (access : StreamAccess) (stream : ImageStream) :
    Action σ Failure LocalRegistry := do
  modify (Scope.noting (LocalRegistry.notices stream))
  return LocalRegistry.ofStream stream access.aliases

def localRegistry (access : StreamAccess) : Action σ Failure LocalRegistry := do
  let stream ← access.streamFor .localRegistry
  access.siteOf stream

def candidates (access : StreamAccess) (primary : Bool) :
    Action σ Failure Pullthrough.Candidates := do
  let stream ← access.streamFor .candidates
  let site ← access.siteOf stream
  return Pullthrough.candidates stream site primary access.defaults

end ContainerStreams.StreamAccess
