import ContainerStreams.Proofs.Pullthrough.Transport

set_option autoImplicit false

namespace ContainerStreams.Pullthrough

section Stream

variable (stream : ImageStream) (site : LocalRegistry) (defaults : DefaultRegistry)

theorem mem_eligible_remote (reference : ImageReference) :
    reference ∈ eligible stream site false defaults ↔
      ∃ history ∈ stream.status.tags, ∃ event ∈ history.events,
        upstream? site defaults event = some reference := by
  rw [← references_offers, List.mem_map]
  change (∃ spec ∈ recordedSpecs stream site defaults, spec.reference = reference) ↔ _
  constructor
  · intro listed
    obtain ⟨spec, offered, rfl⟩ := listed
    obtain ⟨history, recorded, event, member, upstream, -⟩ := (mem_recordedSpecs _ _ _ _).mp offered
    exact ⟨history, recorded, event, member, upstream⟩
  · intro isUpstream
    obtain ⟨history, recorded, event, member, upstream⟩ := isUpstream
    exact ⟨⟨reference, _⟩, (mem_recordedSpecs _ _ _ _).mpr
      ⟨history, recorded, event, member, upstream, rfl⟩, rfl⟩

theorem mem_eligible_of_candidate (primary : Bool) (repository : String) (spec : PullSpec)
    (found : (candidates stream site primary defaults).specs.get? repository = some spec) :
    spec.reference ∈ eligible stream site primary defaults := by
  have first := references_specs_candidates stream site primary defaults repository
  rw [found] at first
  exact List.mem_of_find?_eq_some first.symm

theorem exists_registry_eligible (reference : ImageReference)
    (listed : reference ∈ eligible stream site false defaults) :
    ∃ registry, reference.registry = some registry := by
  obtain ⟨history, -, event, -, upstream⟩ := (mem_eligible_remote _ _ _ _).mp listed
  obtain ⟨parsed, -, -, rfl⟩ := (upstream?_eq_some_iff _ _ _ _).mp upstream
  exact defaults.exists_registry_complete parsed

theorem candidate_of_mem_eligible (reference : ImageReference) (registry : Registry)
    (listed : reference ∈ eligible stream site false defaults)
    (named : reference.registry = some registry) :
    ∃ spec, (candidates stream site false defaults).specs.get? reference.repository.text =
        some spec ∧ spec.reference.registry = some registry := by
  have first := references_specs_candidates stream site false defaults reference.repository.text
  have exists_first : ((eligible stream site false defaults).find? fun known =>
      known.repository.text = reference.repository.text).isSome = true := by
    rw [List.find?_isSome]
    exact ⟨reference, listed, by simp⟩
  obtain ⟨chosen, isFirst⟩ := Option.isSome_iff_exists.mp exists_first
  rw [isFirst] at first
  obtain ⟨spec, found, rfl⟩ := Option.map_eq_some_iff.mp first
  obtain ⟨other, otherNamed⟩ := exists_registry_eligible stream site defaults spec.reference
    (List.mem_of_find?_eq_some isFirst)
  have same := List.find?_some isFirst
  simp only [decide_eq_true_eq] at same
  have equal := ImageReference.registry_eq_of_repository_text_eq _ _ _ _ otherNamed named same
  exact ⟨spec, found, equal ▸ otherNamed⟩

/-- The completion of a remote reference is on a local hostname only if it is on the default
registry's own one. -/
theorem local_complete_iff (parsed : ImageReference)
    (remote : ∀ registry, parsed.registry = some registry → registry ∉ site.hostnames) :
    (∃ registry, (defaults.complete parsed).registry = some registry ∧
        registry ∈ site.hostnames) ↔
      defaults.networkName ∈ site.hostnames ∧
        (parsed.registry.isNone || defaults.names parsed.registry) = true := by
  rw [DefaultRegistry.registry_complete]
  split
  · rename_i placed
    simp [placed]
  · rename_i foreign
    constructor
    · intro leadsBack
      obtain ⟨registry, named, known⟩ := leadsBack
      exact absurd known (remote registry named)
    · intro isPlaced
      obtain ⟨-, placed⟩ := isPlaced
      exact absurd placed foreign

/-- If no candidate is local, then neither is the completion of any remote reference. -/
theorem not_placed_of_no_local_candidate
    (never : ∀ repository spec,
      (candidates stream site false defaults).specs.get? repository = some spec →
      ∀ registry, spec.reference.registry = some registry → registry ∉ site.hostnames)
    (isLocal : defaults.networkName ∈ site.hostnames) (history : TagHistory)
    (recorded : history ∈ stream.status.tags) (event : TagEvent) (member : event ∈ history.events)
    (parsed : ImageReference) (read : ImageReference.parse event.pullReference = .ok parsed)
    (remote : ∀ registry, parsed.registry = some registry → registry ∉ site.hostnames) :
    (parsed.registry.isNone || defaults.names parsed.registry) = false := by
  refine Bool.eq_false_iff.mpr fun placed => ?_
  obtain ⟨registry, completed, known⟩ := (local_complete_iff site defaults parsed remote).mpr
    ⟨isLocal, placed⟩
  have upstream : upstream? site defaults event = some (defaults.complete parsed) :=
    (upstream?_eq_some_iff _ _ _ _).mpr ⟨parsed, read, remote, rfl⟩
  obtain ⟨spec, found, named⟩ := candidate_of_mem_eligible stream site defaults _ registry
    ((mem_eligible_remote _ _ _ _).mpr ⟨history, recorded, event, member, upstream⟩) completed
  exact never _ spec found registry named known

/-- Without the local repositories, no candidate is on a local hostname exactly if the default
registry is not a local hostname, or every readable event names a registry that is local or is not
the default one. -/
theorem no_local_candidate_iff (stream : ImageStream) (aliases : List Registry)
    (defaults : DefaultRegistry) :
    let site := LocalRegistry.ofStream stream aliases
    (∀ repository spec,
        (candidates stream site false defaults).specs.get? repository = some spec →
        ∀ registry, spec.reference.registry = some registry → registry ∉ site.hostnames) ↔
      defaults.networkName ∉ site.hostnames ∨
        ∀ history ∈ stream.status.tags, ∀ event ∈ history.events, ∀ parsed,
          ImageReference.parse event.pullReference = .ok parsed →
          ∃ registry, parsed.registry = some registry ∧
            (registry ∈ site.hostnames ∨ defaults.names (some registry) = false) := by
  intro site
  constructor
  · intro never
    by_cases isLocal : defaults.networkName ∈ site.hostnames
    · refine Or.inr fun history recorded event member parsed read => ?_
      have elsewhere := not_placed_of_no_local_candidate stream site defaults never isLocal history
        recorded event member parsed read
      cases named : parsed.registry with
      | none => simp [named] at elsewhere
      | some registry =>
        refine ⟨registry, rfl, ?_⟩
        by_cases known : registry ∈ site.hostnames
        · exact Or.inl known
        · simp only [named, Option.some.injEq, forall_eq', Option.isNone_some,
            Bool.false_or] at elsewhere
          exact Or.inr (elsewhere known)
    · exact Or.inl isLocal
  · intro safe repository spec found registry named known
    have listed := mem_eligible_of_candidate stream site defaults false repository spec found
    obtain ⟨history, recorded, event, member, upstream⟩ := (mem_eligible_remote _ _ _ _).mp listed
    obtain ⟨parsed, read, remote, completed⟩ := (upstream?_eq_some_iff _ _ _ _).mp upstream
    obtain ⟨isLocal, placed⟩ := (local_complete_iff site defaults parsed remote).mp
      ⟨registry, completed ▸ named, known⟩
    rcases safe with elsewhere | allNamed
    · exact elsewhere isLocal
    · obtain ⟨own, ownNamed, ownLocal | foreign⟩ :=
        allNamed history recorded event member parsed read
      · exact remote own ownNamed ownLocal
      · simp [ownNamed, foreign] at placed

end Stream

def unhostedStream : ImageStream where
  status := { tags := [{ tag := "v1", events := [{
    created := newYear, pullReference := "busybox:v1", image := "busybox" }] }] }

/-- A registry that answers to the hub's own hostname pulls such an event from itself. -/
theorem local_hub_pulls_from_itself :
    let site := LocalRegistry.ofStream unhostedStream [DefaultRegistry.hub.networkName]
    ¬ ∀ repository spec,
        (candidates unhostedStream site false .hub).specs.get? repository = some spec →
        ∀ registry, spec.reference.registry = some registry → registry ∉ site.hostnames := by
  intro site never
  let reference : ImageReference := {
    registry := some DefaultRegistry.hub.networkName, project := some "library"
    name := "busybox", tag := some "v1" }
  have found : (candidates unhostedStream site false .hub).specs.get?
      "docker.io/library/busybox" = some ⟨reference, false⟩ := rfl
  exact never _ _ found DefaultRegistry.hub.networkName rfl (by decide)

end ContainerStreams.Pullthrough
