import ContainerStreams.Object.Basic

set_option autoImplicit false

namespace ContainerStreams

structure ImageLayer where
  name : String
  size : Int64 := 0
  mediaType : String := ""
  deriving DecidableEq

structure ImageManifest where
  digest : String
  mediaType : String := ""
  architecture : String := ""
  os : String := ""
  deriving DecidableEq

/-- An image is named by the digest of its manifest. The image of a manifest list names its child
manifests. -/
structure Image where
  metadata : ObjectMeta := {}
  pullReference : String := ""
  manifestMediaType : String := ""
  layers : List ImageLayer := []
  manifests : List ImageManifest := []
  deriving DecidableEq, Inhabited

namespace ImageLayer

def ofJson? (value : Json) : Option ImageLayer := do
  let record ← value.record? ["name", "size", "mediaType"]
  return {
    name := ← record.required? "name" Json.text?
    size := ← record.optional? "size" Json.int64? 0
    mediaType := ← record.optional? "mediaType" Json.text? "" }

/-- The members are sorted by name. -/
def toJson (layer : ImageLayer) : Json :=
  .object [("mediaType", .string layer.mediaType), ("name", .string layer.name),
    ("size", .ofInt layer.size.toInt)]

end ImageLayer

namespace ImageManifest

def ofJson? (value : Json) : Option ImageManifest := do
  let record ← value.record? ["digest", "mediaType", "architecture", "os"]
  return {
    digest := ← record.required? "digest" Json.text?
    mediaType := ← record.optional? "mediaType" Json.text? ""
    architecture := ← record.optional? "architecture" Json.text? ""
    os := ← record.optional? "os" Json.text? "" }

/-- The members are sorted by name. -/
def toJson (manifest : ImageManifest) : Json :=
  .object [("architecture", .string manifest.architecture), ("digest", .string manifest.digest),
    ("mediaType", .string manifest.mediaType), ("os", .string manifest.os)]

end ImageManifest

namespace Image

def ofJson? (value : Json) : Option Image := do
  let record ← value.record? ["metadata", "dockerImageReference", "dockerImageManifestMediaType",
    "dockerImageLayers", "dockerImageManifests"]
  return {
    metadata := ← record.optional? "metadata" ObjectMeta.ofJson? {}
    pullReference := ← record.optional? "dockerImageReference" Json.text? ""
    manifestMediaType := ← record.optional? "dockerImageManifestMediaType" Json.text? ""
    layers := ← record.optional? "dockerImageLayers" (Json.list? ImageLayer.ofJson?) []
    manifests := ← record.optional? "dockerImageManifests" (Json.list? ImageManifest.ofJson?) [] }

/-- The members are sorted by name. -/
def toJson (image : Image) : Json :=
  .object [("dockerImageLayers", .ofList ImageLayer.toJson image.layers),
    ("dockerImageManifestMediaType", .string image.manifestMediaType),
    ("dockerImageManifests", .ofList ImageManifest.toJson image.manifests),
    ("dockerImageReference", .string image.pullReference),
    ("metadata", image.metadata.toJson)]

end Image

end ContainerStreams
