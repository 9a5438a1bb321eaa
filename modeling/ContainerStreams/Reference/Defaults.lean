import ContainerStreams.Reference.Basic

set_option autoImplicit false

namespace ContainerStreams

/-- References without a registry are pulled from `networkName`, which answers to its aliases as
well. A single name on it belongs to the library project, and a reference with neither tag nor
image id has the default tag. -/
structure DefaultRegistry where
  networkName : Registry
  alsoKnownAs : List Registry := []
  libraryProject : Option String := none
  defaultTag : Option String := none
  deriving DecidableEq

namespace DefaultRegistry

/-- The public hub with its two other hostnames. -/
def hub : DefaultRegistry where
  networkName := ⟨"docker.io", none, by decide, by decide⟩
  alsoKnownAs := [⟨"index.docker.io", none, by decide, by decide⟩,
    ⟨"registry-1.docker.io", none, by decide, by decide⟩]
  libraryProject := some "library"
  defaultTag := some "latest"

instance : Inhabited DefaultRegistry := ⟨hub⟩

/-- A registry without aliases, library project or default tag. -/
def ofRegistry (registry : Registry) : DefaultRegistry where
  networkName := registry

def names (defaults : DefaultRegistry) : Option Registry → Bool
  | none => false
  | some registry => registry = defaults.networkName || defaults.alsoKnownAs.contains registry

def complete (defaults : DefaultRegistry) (reference : ImageReference) : ImageReference :=
  let placed :=
    if reference.registry.isNone || defaults.names reference.registry then
      { reference with
        registry := some defaults.networkName
        project := reference.project.or defaults.libraryProject }
    else reference
  if placed.tag.isNone && placed.imageId.isNone then
    { placed with tag := defaults.defaultTag }
  else placed

theorem registry_complete (defaults : DefaultRegistry) (reference : ImageReference) :
    (defaults.complete reference).registry =
      if reference.registry.isNone || defaults.names reference.registry then
        some defaults.networkName
      else reference.registry := by
  unfold complete
  dsimp only
  split <;> split <;> rfl

theorem exists_registry_complete (defaults : DefaultRegistry) (reference : ImageReference) :
    ∃ registry, (defaults.complete reference).registry = some registry := by
  rw [registry_complete]
  split
  · exact ⟨_, rfl⟩
  · rename_i foreign
    cases named : reference.registry with
    | none => simp [named] at foreign
    | some registry => exact ⟨registry, rfl⟩

/-- The text to pull by. A single name on this registry gains the library project, and nothing is
added to a reference without a registry. -/
def pullSpec (defaults : DefaultRegistry) (reference : ImageReference) : String :=
  if reference.project.isNone && defaults.names reference.registry then
    { reference with project := defaults.libraryProject : ImageReference }.text
  else reference.text

end DefaultRegistry

end ContainerStreams
