import ContainerStreams.Object.Image
import ContainerStreams.Time.Rfc3339

set_option autoImplicit false

namespace ContainerStreams

structure ImportPolicy where
  insecure : Bool := false
  deriving DecidableEq

structure TagReference where
  name : String
  importPolicy : ImportPolicy := {}
  deriving DecidableEq

structure StreamSpec where
  tags : List TagReference := []
  deriving DecidableEq

structure TagEvent where
  created : Instant
  pullReference : String
  image : String
  generation : Int64 := 0
  deriving DecidableEq

/-- The events of one tag, newest first as the control plane keeps them. -/
structure TagHistory where
  tag : String
  events : List TagEvent := []
  deriving DecidableEq

/-- The first location is the one within the cluster, the second one is public. -/
structure StreamStatus where
  repository : String := ""
  publicRepository : String := ""
  tags : List TagHistory := []
  deriving DecidableEq

structure ImageStream where
  metadata : ObjectMeta := {}
  spec : StreamSpec := {}
  status : StreamStatus := {}
  deriving DecidableEq, Inhabited

structure StreamMapping where
  metadata : ObjectMeta
  image : Image
  tag : String
  deriving DecidableEq

namespace ImportPolicy

def ofJson? (value : Json) : Option ImportPolicy := do
  let record ← value.record? ["insecure"]
  return { insecure := ← record.optional? "insecure" Json.bool? false }

def toJson (policy : ImportPolicy) : Json :=
  .object [("insecure", .bool policy.insecure)]

end ImportPolicy

namespace TagReference

def ofJson? (value : Json) : Option TagReference := do
  let record ← value.record? ["name", "importPolicy"]
  return {
    name := ← record.required? "name" Json.text?
    importPolicy := ← record.optional? "importPolicy" ImportPolicy.ofJson? {} }

/-- The members are sorted by name. -/
def toJson (reference : TagReference) : Json :=
  .object [("importPolicy", reference.importPolicy.toJson), ("name", .string reference.name)]

end TagReference

namespace StreamSpec

def ofJson? (value : Json) : Option StreamSpec := do
  let record ← value.record? ["tags"]
  return { tags := ← record.optional? "tags" (Json.list? TagReference.ofJson?) [] }

def toJson (spec : StreamSpec) : Json :=
  .object [("tags", .ofList TagReference.toJson spec.tags)]

end StreamSpec

namespace Instant

def ofJson? (value : Json) : Option Instant :=
  value.text?.bind Rfc3339.parse?

def toJson (instant : Instant) : Json :=
  .string (Rfc3339.render instant)

end Instant

namespace TagEvent

def ofJson? (value : Json) : Option TagEvent := do
  let record ← value.record? ["created", "dockerImageReference", "image", "generation"]
  return {
    created := ← record.required? "created" Instant.ofJson?
    pullReference := ← record.required? "dockerImageReference" Json.text?
    image := ← record.required? "image" Json.text?
    generation := ← record.optional? "generation" Json.int64? 0 }

/-- The members are sorted by name. -/
def toJson (event : TagEvent) : Json :=
  .object [("created", event.created.toJson), ("dockerImageReference", .string event.pullReference),
    ("generation", .ofInt event.generation.toInt), ("image", .string event.image)]

end TagEvent

namespace TagHistory

def ofJson? (value : Json) : Option TagHistory := do
  let record ← value.record? ["tag", "items"]
  return {
    tag := ← record.required? "tag" Json.text?
    events := ← record.optional? "items" (Json.list? TagEvent.ofJson?) [] }

/-- The members are sorted by name. -/
def toJson (history : TagHistory) : Json :=
  .object [("items", .ofList TagEvent.toJson history.events), ("tag", .string history.tag)]

end TagHistory

namespace StreamStatus

def ofJson? (value : Json) : Option StreamStatus := do
  let record ← value.record? ["dockerImageRepository", "publicDockerImageRepository", "tags"]
  return {
    repository := ← record.optional? "dockerImageRepository" Json.text? ""
    publicRepository := ← record.optional? "publicDockerImageRepository" Json.text? ""
    tags := ← record.optional? "tags" (Json.list? TagHistory.ofJson?) [] }

def toJson (status : StreamStatus) : Json :=
  .object [("dockerImageRepository", .string status.repository),
    ("publicDockerImageRepository", .string status.publicRepository),
    ("tags", .ofList TagHistory.toJson status.tags)]

end StreamStatus

namespace ImageStream

/-- The annotation that allows insecure transport for a stream as a whole. -/
def insecureAnnotationKey : String := "openshift.io/image.insecureRepository"

def named (project name : String) : ImageStream where
  metadata := { name, project }

def isInsecure (stream : ImageStream) : Bool :=
  stream.metadata.annotations.get? insecureAnnotationKey = some "true"

/-- The first wanted tag of the given name. -/
def specTag? (stream : ImageStream) (name : String) : Option TagReference :=
  stream.spec.tags.find? fun tag => tag.name = name

def tagAllowsInsecure (stream : ImageStream) (name : String) : Bool :=
  ((stream.specTag? name).map fun tag => tag.importPolicy.insecure).getD false

def ofJson? (value : Json) : Option ImageStream := do
  let record ← value.record? ["metadata", "spec", "status"]
  return {
    metadata := ← record.optional? "metadata" ObjectMeta.ofJson? {}
    spec := ← record.optional? "spec" StreamSpec.ofJson? {}
    status := ← record.optional? "status" StreamStatus.ofJson? {} }

def toJson (stream : ImageStream) : Json :=
  .object [("metadata", stream.metadata.toJson), ("spec", stream.spec.toJson),
    ("status", stream.status.toJson)]

end ImageStream

namespace StreamMapping

def ofJson? (value : Json) : Option StreamMapping := do
  let record ← value.record? ["metadata", "image", "tag"]
  return {
    metadata := ← record.required? "metadata" ObjectMeta.ofJson?
    image := ← record.required? "image" Image.ofJson?
    tag := ← record.required? "tag" Json.text? }

/-- The members are sorted by name. -/
def toJson (mapping : StreamMapping) : Json :=
  .object [("image", mapping.image.toJson), ("metadata", mapping.metadata.toJson),
    ("tag", .string mapping.tag)]

end StreamMapping

end ContainerStreams
