import ContainerStreams.Notice
import ContainerStreams.Object.Stream
import ContainerStreams.Reference.Parser

set_option autoImplicit false

namespace ContainerStreams

/-- Where the local registry lives, as far as one stream knows. The location within the cluster
comes before the public one. -/
structure LocalRegistry where
  repositories : List ImageReference := []
  hostnames : List Registry := []
  deriving DecidableEq

def ImageStream.locations (stream : ImageStream) : List (Location × String) :=
  [(.inCluster, stream.status.repository), (.publicRoute, stream.status.publicRepository)].filter
    fun entry => !entry.2.isEmpty

namespace LocalRegistry

def addHostname (hostnames : List Registry) (registry : Registry) : List Registry :=
  if hostnames.contains registry then hostnames else hostnames ++ [registry]

/-- Adds a repository. One that names no registry tells nothing about where it is. -/
def add (site : LocalRegistry) (reference : ImageReference) : LocalRegistry :=
  match reference.registry with
  | none => site
  | some registry => {
      repositories := site.repositories ++ [reference]
      hostnames := addHostname site.hostnames registry }

/-- The local registry that answers to the given hostnames and to those of the locations that the
stream records. Locations that are no references are left out. -/
def ofStream (stream : ImageStream) (aliases : List Registry) : LocalRegistry :=
  let references := stream.locations.filterMap fun entry =>
    (ImageReference.parse entry.2).toOption
  references.foldl add { hostnames := aliases }

def notices (stream : ImageStream) : List Notice :=
  stream.locations.filterMap fun (location, text) =>
    match ImageReference.parse text with
    | .ok _ => none
    | .error cause => some (.unreadableLocation location text cause)

def isLocal (site : LocalRegistry) (reference : ImageReference) : Bool :=
  reference.registry.any site.hostnames.contains

end LocalRegistry

end ContainerStreams
