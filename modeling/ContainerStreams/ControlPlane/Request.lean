import ContainerStreams.Object.Layers
import ContainerStreams.Object.LimitRange
import ContainerStreams.Object.Basic
import ContainerStreams.Object.Stream
import ContainerStreams.Status
import ContainerStreams.Json.Printer

set_option autoImplicit false

namespace ContainerStreams

inductive Client where
  | registry
  | user
  deriving DecidableEq, Repr

inductive Request where
  | imageStream (project name : String)
  | streamLayers (project name : String)
  | image (name : String)
  | createMapping (mapping : StreamMapping)
  | createStream (stream : ImageStream)
  | secrets (project name : String)
  | limitRanges (project : String)
  deriving DecidableEq

namespace Request

abbrev Answer : Request → Type
  | .imageStream _ _ => ImageStream
  | .streamLayers _ _ => StreamLayers
  | .image _ => Image
  | .createMapping _ => Unit
  | .createStream _ => ImageStream
  | .secrets _ _ => SecretList
  | .limitRanges _ => LimitRangeList

def operation : Request → String
  | .imageStream _ _ => "get_image_stream"
  | .streamLayers _ _ => "get_image_stream_layers"
  | .image _ => "get_image"
  | .createMapping _ => "create_image_stream_mapping"
  | .createStream _ => "create_image_stream"
  | .secrets _ _ => "image_stream_secrets"
  | .limitRanges _ => "list_limit_ranges"

def subject : Request → String
  | .imageStream project name => project ++ "/" ++ name
  | .streamLayers project name => project ++ "/" ++ name
  | .image name => name
  | .createMapping mapping =>
    mapping.metadata.project ++ "/" ++ mapping.metadata.name ++ ":" ++ mapping.tag
  | .createStream stream => stream.toJson.render
  | .secrets project name => project ++ "/" ++ name
  | .limitRanges project => project

/-- The request in one line, with its client unless that is the registry itself. -/
def describe (client : Client) (request : Request) : String :=
  let front := match client with
    | .registry => ""
    | .user => "user "
  front ++ request.operation ++ " " ++ request.subject

end Request

/-- What a call meets. It is answered, and the request it belongs to may be cancelled meanwhile,
or the request is cancelled while the call is still pending and the call is abandoned. -/
inductive Reply (α : Type) where
  | completed (result : Except ApiError α) (cancelled : Bool)
  | abandoned

/-- A control plane with states in `σ`. Nothing is assumed of its answers. -/
class ControlPlane (σ : Type) where
  respond : Client → (request : Request) → σ → Reply request.Answer × σ

end ContainerStreams
