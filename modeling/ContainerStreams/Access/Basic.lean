import ContainerStreams.ControlPlane.Scope
import ContainerStreams.Failure
import ContainerStreams.Pullthrough.LocalRegistry
import ContainerStreams.Reference.Defaults

/-!
Access to one stream during one request. The stream, its layers and each image are fetched at most
once; whatever has been fetched answers all later questions.
-/

set_option autoImplicit false

namespace ContainerStreams

/-- A stream by name, with the settings that its references are read with. -/
structure StreamAccess where
  project : String
  name : String
  defaults : DefaultRegistry := .hub
  aliases : List Registry := []
  deriving DecidableEq

namespace StreamAccess

variable {σ : Type} [ControlPlane σ]

def withAlias (access : StreamAccess) (registry : Registry) : StreamAccess :=
  { access with aliases := LocalRegistry.addHostname access.aliases registry }

/-- The stream as it is named to people. -/
def reference (access : StreamAccess) : String :=
  access.project ++ "/" ++ access.name

def fetchStream (access : StreamAccess) : Action σ LookupFailure ImageStream := do
  match (← get).cache.stream with
  | some stream => return stream
  | none =>
    let stream ← (Scope.call .registry (.imageStream access.project access.name)).adapt
      LookupFailure.ofApiError
    modify (Scope.caching fun cache => { cache with stream := some stream })
    return stream

def fetchLayers (access : StreamAccess) : Action σ LookupFailure StreamLayers := do
  match (← get).cache.layers with
  | some layers => return layers
  | none =>
    let layers ← (Scope.call .registry (.streamLayers access.project access.name)).adapt
      LookupFailure.ofApiError
    modify (Scope.caching fun cache => { cache with layers := some layers })
    return layers

/-- Fetches an image whether or not it belongs to the stream. -/
def fetchImage (digest : ContentDigest) : Action σ ApiError Image := do
  match (← get).cache.images.get? digest.text with
  | some image => return image
  | none =>
    let image ← Scope.call .registry (.image digest.text)
    modify (Scope.caching fun cache =>
      { cache with images := cache.images.insert digest.text image })
    return image

def streamFor (access : StreamAccess) (query : StreamQuery) : Action σ Failure ImageStream :=
  access.fetchStream.adapt (Failure.streamUnavailable query)

end StreamAccess

end ContainerStreams
