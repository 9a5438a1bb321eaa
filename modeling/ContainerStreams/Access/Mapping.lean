import ContainerStreams.Access.Basic

set_option autoImplicit false

namespace ContainerStreams.StreamAccess

variable {σ : Type} [ControlPlane σ]

def mapping (access : StreamAccess) (tag : String) (image : Image) : StreamMapping where
  metadata := { name := access.name, project := access.project }
  image := image
  tag := tag

/-- The failure of a mapping into a stream that does not exist yet: its status is 404, and its
details are those of a mapping of the stream's name. -/
def isMissingStream (access : StreamAccess) (error : ApiError) : Bool :=
  error.status = .notFound && error.detailsKind? = some "imagestreammappings" &&
    error.detailsName? = some access.name

def isFinal (access : StreamAccess) (error : ApiError) : Bool :=
  error.isQuotaExceeded || Failure.isMissingProject error || !access.isMissingStream error

def writeMapping (access : StreamAccess) (tag : String) (image : Image) :
    Action σ ApiError Unit :=
  Scope.call .registry (.createMapping (access.mapping tag image))

/-- Creates the stream without any tags, on behalf of the user, whose permissions and quota apply.
If another writer has created it meanwhile, that is as good. -/
def provision (access : StreamAccess) : Action σ Failure ImageStream := ExceptT.mk do
  let stream := ImageStream.named access.project access.name
  match ← (Scope.call (σ := σ) .user (.createStream stream)).run with
  | .ok created => return .ok created
  | .error cause =>
    if cause.isAlreadyExists || cause.isConflict then return .ok stream
    else return .error (.provisioningFailed cause)

/-- Records an image under a tag. Whatever the second attempt meets is final. -/
def createMapping (access : StreamAccess) (tag : String) (image : Image) :
    Action σ Failure Unit := ExceptT.mk do
  match ← (access.writeMapping tag image).run with
  | .ok _ => return .ok ()
  | .error cause =>
    if access.isFinal cause then return .error (.mappingFailed .first cause)
    else ExceptT.run do
      let stream ← access.provision
      modify (Scope.caching fun cache => { cache with stream := some stream })
      (access.writeMapping tag image).adapt (Failure.mappingFailed .second)

end ContainerStreams.StreamAccess
