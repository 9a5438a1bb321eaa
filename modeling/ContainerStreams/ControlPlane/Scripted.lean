import ContainerStreams.ControlPlane.Request

set_option autoImplicit false

namespace ContainerStreams

/-- How a request is cancelled during a call. The call is answered nevertheless, or it is pending
for good, or it is pending until the cancellation has already won. -/
inductive Interruption where
  | finish
  | hang
  | race
  deriving DecidableEq, Repr

/-- The prepared answers of one client. Streams and their layers are found by project and name
with a slash between them, images by name, and limit ranges by project. Results of writes are
queued; no result left means that a mapping is accepted, and that a created stream is answered as
it was sent, as no result in the queue does. -/
structure Script where
  streams : SortedMap ImageStream := {}
  layers : SortedMap StreamLayers := {}
  images : SortedMap Image := {}
  streamFailures : SortedMap ApiError := {}
  layersFailures : SortedMap ApiError := {}
  imageFailures : SortedMap ApiError := {}
  mappingResults : List (Option ApiError) := []
  createResults : List (Option (Except ApiError ImageStream)) := []
  secrets : SortedMap (Except ApiError SecretList) := {}
  limitRanges : SortedMap (Except ApiError LimitRangeList) := {}
  interruptions : SortedMap Interruption := {}
  accepted : List StreamMapping := []

structure Script.Patch where
  streams : List (String × Option ImageStream) := []
  layers : List (String × Option StreamLayers) := []
  images : List (String × Option Image) := []
  streamFailures : List (String × Option ApiError) := []
  layersFailures : List (String × Option ApiError) := []
  imageFailures : List (String × Option ApiError) := []
  mappingResults : List (Option ApiError) := []
  createResults : List (Option (Except ApiError ImageStream)) := []
  secrets : List (String × Option (Except ApiError SecretList)) := []
  limitRanges : List (String × Option (Except ApiError LimitRangeList)) := []
  interruptions : List (String × Option Interruption) := []

namespace Script

def patched (script : Script) (patch : Patch) : Script where
  streams := script.streams.patch patch.streams
  layers := script.layers.patch patch.layers
  images := script.images.patch patch.images
  streamFailures := script.streamFailures.patch patch.streamFailures
  layersFailures := script.layersFailures.patch patch.layersFailures
  imageFailures := script.imageFailures.patch patch.imageFailures
  mappingResults := script.mappingResults ++ patch.mappingResults
  createResults := script.createResults ++ patch.createResults
  secrets := script.secrets.patch patch.secrets
  limitRanges := script.limitRanges.patch patch.limitRanges
  interruptions := script.interruptions.patch patch.interruptions
  accepted := script.accepted

/-- A failure if one is prepared, else the object, which is not found if there is none. -/
def lookUp {α : Type} (failures : SortedMap ApiError) (objects : SortedMap α)
    (kind key name : String) : Except ApiError α :=
  match failures.get? key, objects.get? key with
  | some error, _ => .error error
  | none, some object => .ok object
  | none, none => .error (.notFound kind name)

def answer (script : Script) : (request : Request) → Except ApiError request.Answer × Script
  | .imageStream project name =>
    let key := project ++ "/" ++ name
    (lookUp script.streamFailures script.streams "imagestreams" key name, script)
  | .streamLayers project name =>
    let key := project ++ "/" ++ name
    (lookUp script.layersFailures script.layers "imagestreams" key name, script)
  | .image name => (lookUp script.imageFailures script.images "images" name name, script)
  | .createMapping mapping =>
    let script' := { script with mappingResults := script.mappingResults.drop 1 }
    match script.mappingResults.head? with
    | some (some error) => (.error error, script')
    | _ => (.ok (), { script' with accepted := script.accepted ++ [mapping] })
  | .createStream stream =>
    let script' := { script with createResults := script.createResults.drop 1 }
    match script.createResults.head? with
    | some (some result) => (result, script')
    | _ => (.ok stream, script')
  | .secrets project name =>
    ((script.secrets.get? (project ++ "/" ++ name)).getD (.ok {}), script)
  | .limitRanges project => ((script.limitRanges.get? project).getD (.ok {}), script)

/-- An interruption is used up by the first call of its operation. -/
def respond (script : Script) (request : Request) : Reply request.Answer × Script :=
  let rest := { script with interruptions := script.interruptions.erase request.operation }
  match script.interruptions.get? request.operation with
  | none =>
    let (result, script) := script.answer request
    (.completed result false, script)
  | some .finish =>
    let (result, script) := rest.answer request
    (.completed result true, script)
  | some .hang => (.abandoned, rest)
  | some .race => (.abandoned, rest)

end Script

/-- A control plane whose answers depend on nothing but what was prepared for its clients and on the
calls before. -/
structure Scripted where
  registry : Script := {}
  user : Script := {}

instance : ControlPlane Scripted where
  respond client request plane :=
    match client with
    | .registry =>
      let (reply, script) := plane.registry.respond request
      (reply, { plane with registry := script })
    | .user =>
      let (reply, script) := plane.user.respond request
      (reply, { plane with user := script })

end ContainerStreams
