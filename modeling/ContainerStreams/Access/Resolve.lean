import ContainerStreams.Access.Basic
import ContainerStreams.History

set_option autoImplicit false

namespace ContainerStreams

/-- An image whose pull reference tells where the stream has it from. It is for showing only: the
control plane must never be given it back as its own record. -/
structure DisplayImage where
  shown : Image
  deriving DecidableEq

def DisplayImage.of (stored : Image) (pullReference : String) : DisplayImage :=
  ⟨{ stored with pullReference }⟩

namespace StreamAccess

variable {σ : Type} [ControlPlane σ]

def eventOf (access : StreamAccess) (imageId : String) : Action σ Failure TagEvent := do
  let stream ← access.streamFor .resolveImageId
  match stream.resolveImageId imageId with
  | .ok event => return event
  | .error cause => throw (.imageUnresolved imageId cause)

def resolveImageId (access : StreamAccess) (digest : ContentDigest) : Action σ Failure TagEvent :=
  access.eventOf digest.text

def imageOf (digest : ContentDigest) : Action σ Failure Image :=
  (fetchImage digest).adapt (Failure.imageUnavailable digest)

/-- The image exactly as the control plane has it, with the event that records it in the stream. -/
def storedImage (access : StreamAccess) (digest : ContentDigest) :
    Action σ Failure (Image × TagEvent) := do
  let event ← access.resolveImageId digest
  let image ← imageOf digest
  return (image, event)

/-- Where a child manifest comes from: the reference of its manifest list, pinned to the child. -/
def parentReference (access : StreamAccess) (digest : ContentDigest) :
    Action σ Failure ImageReference := do
  let layers ← access.fetchLayers.adapt Failure.layersUnavailable
  match layers.parentOf? digest with
  | none => throw (.parentMissing digest)
  | some parent =>
    let event ← (access.eventOf parent).adapt (Failure.parentUnresolved parent)
    match ImageReference.parse event.pullReference with
    | .ok reference => return reference.pinned digest
    | .error cause => throw (.parentUnreadable event.pullReference cause)

def recordedImage (access : StreamAccess) (digest : ContentDigest) :
    Action σ Failure DisplayImage := do
  let (image, event) ← access.storedImage digest
  return .of image event.pullReference

def childImage (access : StreamAccess) (digest : ContentDigest) :
    Action σ Failure DisplayImage := do
  let reference ← access.parentReference digest
  let image ← imageOf digest
  return .of image (access.defaults.pullSpec reference)

/-- The image to show for a digest. A digest that cannot be shown by its own record is taken for a
child of a manifest list, and if that fails too, the second failure is told. -/
def resolve (access : StreamAccess) (digest : ContentDigest) : Action σ Failure DisplayImage :=
  ExceptT.mk do
    match ← (access.recordedImage digest).run with
    | .ok image => return .ok image
    | .error _ => (access.childImage digest).run

end StreamAccess

end ContainerStreams
