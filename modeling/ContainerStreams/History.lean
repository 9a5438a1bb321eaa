import ContainerStreams.Digest.Basic
import ContainerStreams.Failure
import ContainerStreams.Object.Layers
import ContainerStreams.Object.Stream

set_option autoImplicit false

namespace ContainerStreams

namespace ImageStream

def events (stream : ImageStream) : List (String × TagEvent) :=
  stream.status.tags.flatMap fun history => history.events.map fun event => (history.tag, event)

/-- The newest event of each tag that has one. -/
def heads (stream : ImageStream) : List (String × TagEvent) :=
  stream.status.tags.flatMap fun history =>
    (history.events.take 1).map fun event => (history.tag, event)

def olderEvents (stream : ImageStream) : List (String × TagEvent) :=
  stream.status.tags.flatMap fun history =>
    (history.events.drop 1).map fun event => (history.tag, event)

def eventsOf (stream : ImageStream) (imageId : String) : List (String × TagEvent) :=
  stream.events.filter fun entry => imageMatchesId entry.2.image imageId

/-- The names of the images that answer to an id, each once and in ascending order. -/
def imagesOf (stream : ImageStream) (imageId : String) : List String :=
  (SortedMap.ofList ((stream.eventsOf imageId).map fun entry => (entry.2.image, ()))).keys

/-- The event that records the only image answering to an id. Of several events of that image it
is the last in the order of the history. -/
def resolveImageId (stream : ImageStream) (imageId : String) : Except ImageIdError TagEvent :=
  match stream.imagesOf imageId, (stream.eventsOf imageId).getLast? with
  | [_], some (_, event) => .ok event
  | [], _ => .error (.notFound imageId)
  | _, none => .error (.notFound imageId)
  | images, some _ => .error (.ambiguous imageId images)

/-- The later created of two events, and the former if they were created together. -/
def laterEvent (latest : Option (String × TagEvent)) (entry : String × TagEvent) :
    Option (String × TagEvent) :=
  match latest with
  | none => some entry
  | some best => if best.2.created < entry.2.created then some entry else some best

/-- The last created event of the images that answer to an id, with its tag. -/
def latestEvent? (stream : ImageStream) (imageId : String) : Option (String × TagEvent) :=
  (stream.eventsOf imageId).foldl laterEvent none

/-- Whether insecure transport is allowed for an image under a tag. Without a tag, or with an
empty one, the tag is that of the last created event of the image. -/
def allowsInsecure (stream : ImageStream) (tag : Option String) (digest : ContentDigest) : Bool :=
  stream.isInsecure ||
    match tag.filter (!·.isEmpty) |>.or ((stream.latestEvent? digest.text).map (·.1)) with
    | some tag => stream.tagAllowsInsecure tag
    | none => false

/-- The digest that each tag points to now. A tag whose image is not named by a digest is left
out; of two histories of one tag the last one counts. -/
def currentTags (stream : ImageStream) : SortedMap ContentDigest :=
  SortedMap.ofList (stream.heads.filterMap fun (tag, event) =>
    (ContentDigest.parse event.image).toOption.map fun digest => (tag, digest))

end ImageStream

/-- The first manifest list, in the order of the names, that has the digest among its children. -/
def StreamLayers.parentOf? (layers : StreamLayers) (digest : ContentDigest) : Option String :=
  (layers.images.entries.find? fun entry => entry.2.manifests.contains digest.text).map (·.1)

end ContainerStreams
