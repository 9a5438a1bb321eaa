import ContainerStreams.Digest.Basic
import ContainerStreams.Reference.Registry

set_option autoImplicit false

namespace ContainerStreams

/-- A reference is written `[registry/][project/]name[:tag][@id]`. Only the name is mandatory. Of a
path with more than two components the first is the project and all others are the name. The parts
are plain fields and need not be readable back. -/
structure ImageReference where
  registry : Option Registry := none
  project : Option String := none
  name : String
  tag : Option String := none
  imageId : Option String := none
  deriving DecidableEq

namespace ImageReference

def hostname? (reference : ImageReference) : Option String :=
  reference.registry.map Registry.text

def repositoryPath (reference : ImageReference) : String :=
  match reference.project with
  | some project => project ++ "/" ++ reference.name
  | none => reference.name

def repository (reference : ImageReference) : ImageReference :=
  { reference with tag := none, imageId := none }

def pinned (reference : ImageReference) (digest : ContentDigest) : ImageReference :=
  { reference with tag := none, imageId := some digest.text }

/-- Every part that is set, as it is written, with nothing assumed. -/
def text (reference : ImageReference) : String :=
  let registry := match reference.registry with
    | some registry => registry.text ++ "/"
    | none => ""
  let tag := match reference.tag with
    | some tag => ":" ++ tag
    | none => ""
  let imageId := match reference.imageId with
    | some imageId => "@" ++ imageId
    | none => ""
  registry ++ reference.repositoryPath ++ tag ++ imageId

theorem text_of_registry (reference : ImageReference) (registry : Registry)
    (named : reference.registry = some registry) :
    reference.text =
      registry.text ++ "/" ++ { reference with registry := none : ImageReference }.text := by
  simp only [text, named, repositoryPath, String.append_assoc, String.empty_append]

theorem cut_text (reference : ImageReference) (registry : Registry)
    (named : reference.registry = some registry) :
    Text.cut '/' reference.text.toList = (registry.text.toList,
      some { reference with registry := none : ImageReference }.text.toList) := by
  have parts : reference.text.toList = registry.text.toList ++
      '/' :: { reference with registry := none : ImageReference }.text.toList := by
    rw [text_of_registry reference registry named]
    simp
  rw [parts, Text.cut_append '/' _ _ registry.slash_not_mem_text]

/-- A repository is on one registry only. -/
theorem registry_eq_of_repository_text_eq (first second : ImageReference) (left right : Registry)
    (firstNamed : first.registry = some left) (secondNamed : second.registry = some right)
    (same : first.repository.text = second.repository.text) : left = right := by
  have cuts := congrArg (fun text => (Text.cut '/' text.toList).1) same
  simp only [cut_text first.repository left firstNamed,
    cut_text second.repository right secondNamed] at cuts
  exact Registry.text_injective (String.toList_inj.mp cuts)

end ImageReference

end ContainerStreams
