import ContainerStreams.Proofs.Pullthrough.Locality
import ContainerStreams.Proofs.Pullthrough.Locations
import ContainerStreams.Proofs.Reference.Grammar

set_option autoImplicit false

namespace ContainerStreams

/-- A hostname that is taken for one in front of a path. -/
def Registry.IsEvident (registry : Registry) : Prop :=
  '.' ∈ registry.text.toList ∨ ':' ∈ registry.text.toList ∨ registry.text = "localhost"

theorem Registry.isEvident_iff (registry : Registry) :
    registry.IsEvident ↔ Registry.looksLikeRegistry registry.text.toList = true := by
  rw [ImageReference.looksLikeRegistry_iff, String.toList_inj]
  rfl

namespace ImageReference

/-- If its parts can be told apart at all, a reference to a registry is readable exactly if the
hostname is evident. -/
theorem Parted.readable_iff_isEvident {reference : ImageReference} (parted : reference.Parted)
    {registry : Registry} (named : reference.registry = some registry) :
    reference.Readable ↔ registry.IsEvident := by
  rw [Registry.isEvident_iff]
  constructor
  · intro readable
    exact readable.hosted registry named
  · intro evident
    refine ⟨parted, ?_, ?_⟩
    · intro own ownNamed
      have same : registry = own := Option.some.inj (named.symm.trans (Option.mem_def.mp ownNamed))
      exact same ▸ evident
    · intro unnamed
      cases unnamed.symm.trans named

theorem parse_text_eq_ok_iff (reference : ImageReference) :
    parse reference.text = .ok reference ↔ reference.Readable := by
  rw [parse_eq_ok_iff]
  exact and_iff_left rfl

end ImageReference

namespace DefaultRegistry

theorem repository_complete (defaults : DefaultRegistry) (reference : ImageReference) :
    (defaults.complete reference).repository =
      if reference.registry.isNone || defaults.names reference.registry then
        { reference.repository with
          registry := some defaults.networkName
          project := reference.project.or defaults.libraryProject }
      else reference.repository := by
  unfold complete
  dsimp only
  split <;> split <;> rfl

/-- The parts of a reference can still be told apart when it has been completed. -/
theorem parted_complete (defaults : DefaultRegistry) {reference : ImageReference}
    (readable : reference.Readable)
    (valid : ∀ library ∈ defaults.libraryProject, ImageReference.IsComponent library) :
    (defaults.complete reference).repository.Parted := by
  have parted := readable.repository.toParted
  rw [repository_complete]
  split
  · cases placed : reference.project with
    | some project =>
      have same : (some project).or defaults.libraryProject = reference.repository.project :=
        placed.symm
      rw [same]
      exact ⟨parted.path, parted.front, parted.tag, parted.imageId⟩
    | none =>
      cases library : defaults.libraryProject with
      | none =>
        have same : (none : Option String).or none = reference.repository.project := placed.symm
        rw [same]
        exact ⟨parted.path, parted.front, parted.tag, parted.imageId⟩
      | some project =>
        have inProject := parted.inProject placed (valid project library)
        exact ⟨inProject.path, inProject.front, inProject.tag, inProject.imageId⟩
  · exact parted

/-- A completed reference is on the default registry, or its hostname is evident. -/
theorem isEvident_or_eq_of_complete (defaults : DefaultRegistry) {reference : ImageReference}
    (readable : reference.Readable) {registry : Registry}
    (named : (defaults.complete reference).registry = some registry) :
    registry.IsEvident ∨ registry = defaults.networkName := by
  rw [registry_complete] at named
  split at named
  · exact .inr (Option.some.inj named).symm
  · exact .inl ((Registry.isEvident_iff registry).mpr (readable.hosted registry named))

/-- The hub and a registry of one's own put single names into a valid project or into none. -/
theorem isComponent_libraryProject (defaults : DefaultRegistry)
    (plain : defaults = .hub ∨ ∃ registry, defaults = .ofRegistry registry) :
    ∀ library ∈ defaults.libraryProject, ImageReference.IsComponent library := by
  obtain rfl | ⟨registry, rfl⟩ := plain
  · rintro _ ⟨⟩
    exact ⟨by decide, by decide⟩
  · exact nofun

end DefaultRegistry

namespace Pullthrough

section Stream

variable (stream : ImageStream) (aliases : List Registry) (primary : Bool)
  (defaults : DefaultRegistry)

/-- Every repository in the order has a spec, and is the repository of that spec. -/
theorem exists_spec_of_mem_order (site : LocalRegistry) (repository : String)
    (listed : repository ∈ (candidates stream site primary defaults).order) :
    ∃ spec, (candidates stream site primary defaults).specs.get? repository = some spec ∧
      spec.repository = repository := by
  rw [← mem_keys_candidates, SortedMap.mem_keys] at listed
  obtain ⟨spec, found⟩ := Option.isSome_iff_exists.mp listed
  have first := references_specs_candidates stream site primary defaults repository
  rw [found] at first
  have same := List.find?_some first.symm
  exact ⟨spec, found, of_decide_eq_true same⟩

theorem exists_parsed_of_eligible (reference : ImageReference)
    (listed : reference ∈
      eligible stream (LocalRegistry.ofStream stream aliases) primary defaults) :
    ((∃ registry, reference.registry = some registry) ∧
        ∃ text, ImageReference.parse text = .ok reference) ∨
      ∃ text parsed, ImageReference.parse text = .ok parsed ∧
        defaults.complete parsed = reference := by
  rcases List.mem_append.mp listed with own | recorded
  · cases primary with
    | false => cases own
    | true =>
      obtain ⟨location, -, -, read, named⟩ := (LocalRegistry.mem_repositories_ofStream _ _ _).mp own
      exact .inl ⟨named, location, read⟩
  · obtain ⟨event, -, upstream⟩ := List.mem_filterMap.mp recorded
    obtain ⟨parsed, read, -, completed⟩ := (upstream?_eq_some_iff _ _ _ _).mp upstream
    exact .inr ⟨event.pullReference, parsed, read, completed⟩

theorem exists_registry_of_eligible (reference : ImageReference)
    (listed : reference ∈
      eligible stream (LocalRegistry.ofStream stream aliases) primary defaults) :
    ∃ registry, reference.registry = some registry := by
  rcases exists_parsed_of_eligible stream aliases primary defaults reference listed with
    ⟨named, -⟩ | ⟨text, parsed, -, rfl⟩
  · exact named
  · exact defaults.exists_registry_complete parsed

/-- The parts of what is eligible can be told apart, and its hostname is evident unless it is the
default one. -/
theorem parted_of_eligible
    (valid : ∀ library ∈ defaults.libraryProject, ImageReference.IsComponent library)
    (reference : ImageReference)
    (listed : reference ∈
      eligible stream (LocalRegistry.ofStream stream aliases) primary defaults)
    (registry : Registry) (named : reference.registry = some registry) :
    reference.repository.Parted ∧ (registry.IsEvident ∨ registry = defaults.networkName) := by
  rcases exists_parsed_of_eligible stream aliases primary defaults reference listed with
    ⟨-, text, read⟩ | ⟨text, parsed, read, rfl⟩
  · have readable := ((ImageReference.parse_eq_ok_iff _ _).mp read).1
    have evident := (readable.toParted.readable_iff_isEvident named).mp readable
    exact ⟨readable.repository.toParted, .inl evident⟩
  · have readable := ((ImageReference.parse_eq_ok_iff _ _).mp read).1
    exact ⟨defaults.parted_complete readable valid,
      defaults.isEvident_or_eq_of_complete readable named⟩

/-- The repository of a candidate is read as the one that the candidate is pulled from exactly if
the hostname of its registry is evident. Any other hostname is that of a default registry that is
not the hub. -/
theorem repository_is_read_back_iff
    (plain : defaults = .hub ∨ ∃ registry, defaults = .ofRegistry registry) (repository : String)
    (listed : repository ∈ (candidates stream (LocalRegistry.ofStream stream aliases) primary
      defaults).order) :
    ∃ spec registry, (candidates stream (LocalRegistry.ofStream stream aliases) primary
        defaults).specs.get? repository = some spec ∧ spec.reference.registry = some registry ∧
      (ImageReference.parse repository = .ok spec.reference.repository ↔ registry.IsEvident) ∧
      (registry.IsEvident ∨ defaults = .ofRegistry registry) := by
  obtain ⟨spec, found, rfl⟩ := exists_spec_of_mem_order stream primary defaults _ repository listed
  have isEligible := mem_eligible_of_candidate stream _ defaults primary _ spec found
  obtain ⟨registry, named⟩ :=
    exists_registry_of_eligible stream aliases primary defaults spec.reference isEligible
  obtain ⟨parted, known⟩ := parted_of_eligible stream aliases primary defaults
    (defaults.isComponent_libraryProject plain) spec.reference isEligible registry named
  refine ⟨spec, registry, found, named, ?_, ?_⟩
  · have readBack := spec.reference.repository.parse_text_eq_ok_iff
    rw [parted.readable_iff_isEvident named] at readBack
    exact readBack
  · rcases known with evident | rfl
    · exact .inl evident
    · obtain rfl | ⟨own, rfl⟩ := plain
      · exact .inl (.inl (by decide))
      · exact .inr rfl

end Stream

theorem localhost_repository_is_read_back :
    let localhost : Registry := ⟨"localhost", none, by decide, by decide⟩
    let site := LocalRegistry.ofStream unhostedStream []
    "localhost/busybox" ∈ (candidates unhostedStream site false (.ofRegistry localhost)).order ∧
      ∃ spec registry, (candidates unhostedStream site false
          (.ofRegistry localhost)).specs.get? "localhost/busybox" = some spec ∧
        spec.reference.registry = some registry ∧
        (ImageReference.parse "localhost/busybox" = .ok spec.reference.repository ↔
          registry.IsEvident) ∧
        (registry.IsEvident ∨
          DefaultRegistry.ofRegistry localhost = .ofRegistry registry) := by
  intro localhost site
  have listed : "localhost/busybox" ∈
      (candidates unhostedStream site false (.ofRegistry localhost)).order :=
    List.mem_singleton.mpr rfl
  exact ⟨listed, repository_is_read_back_iff unhostedStream [] false (.ofRegistry localhost)
    (.inr ⟨localhost, rfl⟩) "localhost/busybox" listed⟩

/-- A default registry with a bare hostname is read as the project of the repository. -/
theorem bare_hostname_is_read_as_project :
    let mirror : Registry := ⟨"mirror", none, by decide, by decide⟩
    let site := LocalRegistry.ofStream unhostedStream []
    ¬ ∀ repository ∈ (candidates unhostedStream site false (.ofRegistry mirror)).order,
        ∃ spec, (candidates unhostedStream site false
            (.ofRegistry mirror)).specs.get? repository = some spec ∧
          ImageReference.parse repository = .ok spec.reference.repository := by
  intro mirror site readBack
  let reference : ImageReference := {
    registry := some mirror, project := none, name := "busybox", tag := some "v1" }
  have candidate : (candidates unhostedStream site false (.ofRegistry mirror)).specs.get?
      "mirror/busybox" = some ⟨reference, false⟩ := rfl
  obtain ⟨spec, found, parses⟩ := readBack "mirror/busybox" (List.mem_singleton.mpr rfl)
  obtain rfl : ⟨reference, false⟩ = spec := Option.some.inj (candidate.symm.trans found)
  have asProject : ImageReference.parse "mirror/busybox" =
      .ok { project := some "mirror", name := "busybox" } := rfl
  exact absurd (Except.ok.inj (asProject.symm.trans parses)) (by decide)

end Pullthrough

end ContainerStreams
