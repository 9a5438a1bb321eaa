import ContainerStreams.Json.Basic

set_option autoImplicit false

namespace ContainerStreams

structure ObjectMeta where
  name : String := ""
  project : String := ""
  annotations : SortedMap String := {}
  deriving DecidableEq, Inhabited

namespace ObjectMeta

def ofJson? (value : Json) : Option ObjectMeta := do
  let record ← value.record? ["name", "namespace", "annotations"]
  return {
    name := ← record.optional? "name" Json.text? ""
    project := ← record.optional? "namespace" Json.text? ""
    annotations := ← record.optional? "annotations" (Json.map? Json.text?) {} }

/-- A record is written with its members sorted by name, whatever the order of its fields. A project
and annotations are left out when there are none. -/
def toJson (object : ObjectMeta) : Json :=
  let annotations := if object.annotations.isEmpty then [] else
    [("annotations", Json.ofMap Json.string object.annotations)]
  let project := if object.project.isEmpty then [] else
    [("namespace", Json.string object.project)]
  .object (annotations ++ ("name", .string object.name) :: project)

end ObjectMeta

structure Secret where
  metadata : ObjectMeta := {}
  secretType : String := ""
  data : SortedMap String := {}
  deriving DecidableEq

structure SecretList where
  items : List Secret := []
  deriving DecidableEq, Inhabited

namespace Secret

def ofJson? (value : Json) : Option Secret := do
  let record ← value.record? ["metadata", "type", "data"]
  return {
    metadata := ← record.optional? "metadata" ObjectMeta.ofJson? {}
    secretType := ← record.optional? "type" Json.text? ""
    data := ← record.optional? "data" (Json.map? Json.text?) {} }

/-- The members are sorted by name. -/
def toJson (secret : Secret) : Json :=
  .object [("data", .ofMap Json.string secret.data), ("metadata", secret.metadata.toJson),
    ("type", .string secret.secretType)]

end Secret

namespace SecretList

def ofJson? (value : Json) : Option SecretList := do
  let record ← value.record? ["items"]
  return { items := ← record.optional? "items" (Json.list? Secret.ofJson?) [] }

def toJson (list : SecretList) : Json :=
  .object [("items", .ofList Secret.toJson list.items)]

end SecretList

end ContainerStreams
