import ContainerStreams.Access.Basic
import ContainerStreams.Proofs.FirstAppearance

set_option autoImplicit false

namespace ContainerStreams

namespace LocalRegistry

/-- The repository at a recorded location. There is none if nothing is recorded, if what is
recorded is no reference, or if it names no registry. -/
def repositoryAt? (location : String) : Option ImageReference :=
  if location = "" then none
  else (ImageReference.parse location).toOption.filter fun reference => reference.registry.isSome

theorem repositoryAt?_eq_some_iff (location : String) (reference : ImageReference) :
    repositoryAt? location = some reference ↔ location ≠ "" ∧
      ImageReference.parse location = .ok reference ∧
      ∃ registry, reference.registry = some registry := by
  unfold repositoryAt?
  by_cases recorded : location = ""
  · simp [recorded]
  · rw [if_neg recorded, Option.filter_eq_some_iff, Option.isSome_iff_exists]
    cases ImageReference.parse location <;> simp [recorded, Except.toOption]

theorem repositories_add (site : LocalRegistry) (reference : ImageReference) :
    (site.add reference).repositories =
      site.repositories ++ [reference].filter fun known => known.registry.isSome := by
  unfold add
  cases named : reference.registry with
  | none => simp [named]
  | some registry => simp [named]

theorem repositories_foldl_add (site : LocalRegistry) (references : List ImageReference) :
    (references.foldl add site).repositories =
      site.repositories ++ references.filter fun known => known.registry.isSome := by
  induction references generalizing site with
  | nil => simp
  | cons reference rest ih =>
    have whole : (reference :: rest).filter (fun known => known.registry.isSome) =
        [reference].filter (fun known => known.registry.isSome) ++
          rest.filter fun known => known.registry.isSome :=
      List.filter_append [reference] rest
    rw [List.foldl_cons, ih, repositories_add, whole, List.append_assoc]

/-- The repository within the cluster comes before the public one. -/
theorem repositories_ofStream (stream : ImageStream) (aliases : List Registry) :
    (ofStream stream aliases).repositories =
      [stream.status.repository, stream.status.publicRepository].filterMap repositoryAt? := by
  have entrywise (entry : Location × String) :
      (if (!entry.2.isEmpty) = true then
        (ImageReference.parse entry.2).toOption.filter fun known => known.registry.isSome
      else none) = repositoryAt? entry.2 := by
    by_cases recorded : entry.2 = "" <;> simp [repositoryAt?, recorded]
  rw [ofStream, repositories_foldl_add, List.nil_append, List.filter_filterMap,
    ImageStream.locations, List.filterMap_filter]
  simp only [entrywise]
  rfl

/-- The repositories of the local registry are the locations that can be read and that name a
registry. -/
theorem mem_repositories_ofStream (stream : ImageStream) (aliases : List Registry)
    (reference : ImageReference) : reference ∈ (ofStream stream aliases).repositories ↔
      ∃ location ∈ [stream.status.repository, stream.status.publicRepository],
        location ≠ "" ∧ ImageReference.parse location = .ok reference ∧
          ∃ registry, reference.registry = some registry := by
  rw [repositories_ofStream, List.mem_filterMap]
  simp only [repositoryAt?_eq_some_iff]

/-- Hostnames that are added one after another stand in the order in which they were first named. -/
theorem addHostname_eraseDups (known : List Registry) (registry : Registry) :
    addHostname known.eraseDups registry = (known ++ [registry]).eraseDups := by
  have same : known.eraseDups.contains registry = known.contains registry := by
    rw [Bool.eq_iff_iff, List.contains_iff_mem, List.contains_iff_mem, List.mem_eraseDups]
  rw [addHostname, eraseDups_concat, same]

/-- The hostnames are those configured and those of the repositories, each at its first
appearance. -/
def AnswersTo (site : LocalRegistry) (configured : List Registry) : Prop :=
  site.hostnames = (configured ++ site.repositories.filterMap ImageReference.registry).eraseDups

namespace AnswersTo

variable {site : LocalRegistry} {configured : List Registry} (answers : site.AnswersTo configured)
include answers

/-- A reference without a registry changes neither list, and any other one extends the
repositories even if its hostname is known. -/
theorem add (reference : ImageReference) : (site.add reference).AnswersTo configured := by
  unfold LocalRegistry.add
  cases named : reference.registry with
  | none => exact answers
  | some registry =>
    have found : (site.repositories ++ [reference]).filterMap ImageReference.registry =
        site.repositories.filterMap ImageReference.registry ++ [registry] := by
      simp [named]
    have extended := addHostname_eraseDups
      (configured ++ site.repositories.filterMap ImageReference.registry) registry
    rw [List.append_assoc, ← found, ← answers] at extended
    exact extended

theorem foldl_add (references : List ImageReference) :
    (references.foldl LocalRegistry.add site).AnswersTo configured := by
  induction references generalizing site with
  | nil => exact answers
  | cons reference rest ih => exact ih (answers.add reference)

theorem nodup_hostnames : site.hostnames.Nodup := by
  rw [answers]
  exact nodup_eraseDups _

/-- What is not configured comes last. -/
theorem hostnames_eq : site.hostnames = configured.eraseDups ++
    ((site.repositories.filterMap ImageReference.registry).filter fun registry =>
      registry ∉ configured).eraseDups := by
  rw [answers, List.eraseDups_append, List.removeAll]
  simp only [List.elem_eq_contains, List.contains_eq_mem, decide_not]

theorem mem_hostnames_iff (registry : Registry) : registry ∈ site.hostnames ↔
    registry ∈ configured ∨
      ∃ repository ∈ site.repositories, repository.registry = some registry := by
  rw [answers, List.mem_eraseDups, List.mem_append, List.mem_filterMap]

theorem isLocal_iff (reference : ImageReference) : site.isLocal reference = true ↔
    ∃ registry, reference.registry = some registry ∧ (registry ∈ configured ∨
      ∃ repository ∈ site.repositories, repository.registry = some registry) := by
  simp only [isLocal, Option.any_eq_true, List.contains_iff_mem, answers.mem_hostnames_iff]

end AnswersTo

theorem answersTo_ofStream (stream : ImageStream) (configured : List Registry) :
    (ofStream stream configured.eraseDups).AnswersTo configured :=
  AnswersTo.foldl_add (by simp [AnswersTo]) _

end LocalRegistry

theorem StreamAccess.aliases_foldl_withAlias (access : StreamAccess) (known : List Registry)
    (start : access.aliases = known.eraseDups) (registries : List Registry) :
    (registries.foldl withAlias access).aliases = (known ++ registries).eraseDups := by
  induction registries generalizing access known with
  | nil => simpa using start
  | cons registry rest ih =>
    have next : (access.withAlias registry).aliases = (known ++ [registry]).eraseDups := by
      rw [withAlias, start]
      exact LocalRegistry.addHostname_eraseDups known registry
    simpa using ih (access.withAlias registry) (known ++ [registry]) next

/-- However often hostnames are configured, and whatever locations a stream records, the local
registry answers to each configured hostname once and then to each further one that a location
names; its repositories are the locations that count, and all of them are local. A reference is
local exactly if its registry is configured or is that of such a location. -/
theorem LocalRegistry.answers_to_configured_and_recorded (project name : String)
    (defaults : DefaultRegistry) (configured : List Registry) (stream : ImageStream) :
    let access := configured.foldl StreamAccess.withAlias { project, name, defaults }
    let site := ofStream stream access.aliases
    let locations := [stream.status.repository, stream.status.publicRepository]
    access.aliases = configured.eraseDups ∧
      site.hostnames.Nodup ∧
      site.hostnames = access.aliases ++
        ((site.repositories.filterMap ImageReference.registry).filter fun registry =>
          registry ∉ access.aliases).eraseDups ∧
      site.repositories = locations.filterMap repositoryAt? ∧
      (∀ reference, reference ∈ site.repositories ↔ ∃ location ∈ locations,
        location ≠ "" ∧ ImageReference.parse location = .ok reference ∧
          ∃ registry, reference.registry = some registry) ∧
      (∀ repository ∈ site.repositories, site.isLocal repository = true) ∧
      ∀ reference, site.isLocal reference = true ↔
        ∃ registry, reference.registry = some registry ∧ (registry ∈ configured ∨
          ∃ repository ∈ site.repositories, repository.registry = some registry) := by
  intro access site locations
  have aliases : access.aliases = configured.eraseDups := by
    simpa using StreamAccess.aliases_foldl_withAlias { project, name, defaults } [] rfl configured
  have answers : site.AnswersTo configured := by
    change (ofStream stream access.aliases).AnswersTo configured
    rw [aliases]
    exact answersTo_ofStream stream configured
  refine ⟨aliases, answers.nodup_hostnames, ?_, repositories_ofStream stream access.aliases,
    mem_repositories_ofStream stream access.aliases, ?_, answers.isLocal_iff⟩
  · rw [aliases]
    simp only [List.mem_eraseDups]
    exact answers.hostnames_eq
  · intro repository listed
    obtain ⟨_, _, _, _, registry, named⟩ :=
      (mem_repositories_ofStream stream access.aliases repository).mp listed
    exact (answers.isLocal_iff repository).mpr ⟨registry, named, .inr ⟨repository, listed, named⟩⟩

/-- An unreadable location does not hide the one behind it, and a location on a configured hostname
adds a repository but no hostname. -/
example :
    let stream : ImageStream := { status := {
      repository := "Not/A/Reference!", publicRepository := "docker.io/ns/app" } }
    LocalRegistry.ofStream stream [DefaultRegistry.hub.networkName] = {
      repositories := [{
        registry := some DefaultRegistry.hub.networkName, project := some "ns", name := "app" }]
      hostnames := [DefaultRegistry.hub.networkName] } := by
  decide

end ContainerStreams
