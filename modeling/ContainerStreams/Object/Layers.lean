import ContainerStreams.Object.Basic

set_option autoImplicit false

namespace ContainerStreams

structure LayerData where
  size : Option Int64 := none
  mediaType : String := ""
  deriving DecidableEq

/-- What one image is made of. Only a manifest list has child manifests. -/
structure BlobReferences where
  imageMissing : Bool := false
  layers : List String := []
  config : Option String := none
  manifests : List String := []
  deriving DecidableEq

structure StreamLayers where
  metadata : ObjectMeta := {}
  blobs : SortedMap LayerData := {}
  images : SortedMap BlobReferences := {}
  deriving DecidableEq, Inhabited

namespace LayerData

def ofJson? (value : Json) : Option LayerData := do
  let record ← value.record? ["size", "mediaType"]
  return {
    size := ← record.optional? "size" (Json.nullable? Json.int64?) none
    mediaType := ← record.optional? "mediaType" Json.text? "" }

/-- The members are sorted by name. -/
def toJson (data : LayerData) : Json :=
  .object [("mediaType", .string data.mediaType),
    ("size", .ofOption (fun size => .ofInt size.toInt) data.size)]

end LayerData

namespace BlobReferences

def ofJson? (value : Json) : Option BlobReferences := do
  let record ← value.record? ["imageMissing", "layers", "config", "manifests"]
  return {
    imageMissing := ← record.optional? "imageMissing" Json.bool? false
    layers := ← record.optional? "layers" (Json.list? Json.text?) []
    config := ← record.optional? "config" (Json.nullable? Json.text?) none
    manifests := ← record.optional? "manifests" (Json.list? Json.text?) [] }

/-- The members are sorted by name. -/
def toJson (references : BlobReferences) : Json :=
  .object [("config", .ofOption Json.string references.config),
    ("imageMissing", .bool references.imageMissing),
    ("layers", .ofList Json.string references.layers),
    ("manifests", .ofList Json.string references.manifests)]

end BlobReferences

namespace StreamLayers

def hasBlob (layers : StreamLayers) (digest : String) : Bool :=
  layers.blobs.contains digest || layers.images.contains digest ||
    layers.images.values.any fun references => references.config = some digest

def ofJson? (value : Json) : Option StreamLayers := do
  let record ← value.record? ["metadata", "blobs", "images"]
  return {
    metadata := ← record.optional? "metadata" ObjectMeta.ofJson? {}
    blobs := ← record.optional? "blobs" (Json.map? LayerData.ofJson?) {}
    images := ← record.optional? "images" (Json.map? BlobReferences.ofJson?) {} }

/-- The members are sorted by name. -/
def toJson (layers : StreamLayers) : Json :=
  .object [("blobs", .ofMap LayerData.toJson layers.blobs),
    ("images", .ofMap BlobReferences.toJson layers.images),
    ("metadata", layers.metadata.toJson)]

end StreamLayers

end ContainerStreams
