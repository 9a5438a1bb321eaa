import ContainerStreams.Proofs.Pullthrough.Survey

set_option autoImplicit false

namespace ContainerStreams.Pullthrough

/-- What an event is pulled by, unless its reference is unreadable or names a local hostname. It is
completed only after it has been tested for that. -/
def upstream? (site : LocalRegistry) (defaults : DefaultRegistry) (event : TagEvent) :
    Option ImageReference :=
  match ImageReference.parse event.pullReference with
  | .error _ => none
  | .ok parsed =>
    match parsed.registry with
    | none => some (defaults.complete parsed)
    | some registry =>
      if registry ∈ site.hostnames then none else some (defaults.complete parsed)

/-- The local repositories if wanted, the first event of every tag, and the remaining events of
every tag. -/
def eligible (stream : ImageStream) (site : LocalRegistry) (primary : Bool)
    (defaults : DefaultRegistry) : List ImageReference :=
  (if primary then site.repositories else []) ++
    ((stream.status.tags.filterMap fun history => history.events.head?) ++
      stream.status.tags.flatMap fun history => history.events.tail).filterMap
        (upstream? site defaults)

theorem upstream?_eq (site : LocalRegistry) (defaults : DefaultRegistry) (event : TagEvent) :
    upstream? site defaults event = (remote? site event).map defaults.complete := by
  unfold upstream? remote? LocalRegistry.isLocal
  cases ImageReference.parse event.pullReference with
  | error cause => rfl
  | ok parsed =>
    cases named : parsed.registry with
    | none => simp [named]
    | some registry =>
      by_cases isLocal : registry ∈ site.hostnames <;> simp_all

/-- An event is pulled by the completion of its reference, which names no local hostname. -/
theorem upstream?_eq_some_iff (site : LocalRegistry) (defaults : DefaultRegistry)
    (event : TagEvent) (reference : ImageReference) :
    upstream? site defaults event = some reference ↔
      ∃ parsed, ImageReference.parse event.pullReference = .ok parsed ∧
        (∀ registry, parsed.registry = some registry → registry ∉ site.hostnames) ∧
        defaults.complete parsed = reference := by
  unfold upstream?
  cases ImageReference.parse event.pullReference with
  | error cause => simp
  | ok parsed =>
    cases named : parsed.registry with
    | none => simp [named]
    | some registry =>
      by_cases isLocal : registry ∈ site.hostnames <;> simp_all

section Stream

variable (stream : ImageStream) (site : LocalRegistry) (primary : Bool) (defaults : DefaultRegistry)

theorem events_heads : stream.heads.map Prod.snd =
    stream.status.tags.filterMap fun history => history.events.head? := by
  rw [ImageStream.heads, List.map_flatMap]
  induction stream.status.tags with
  | nil => rfl
  | cons history rest ih =>
    rw [List.flatMap_cons, ih, List.filterMap_cons]
    cases history.events <;> rfl

theorem events_olderEvents : stream.olderEvents.map Prod.snd =
    stream.status.tags.flatMap fun history => history.events.tail := by
  rw [ImageStream.olderEvents, List.map_flatMap]
  congr 1
  funext history
  rw [List.map_map, List.drop_one]
  exact List.map_id _

theorem reference_specOf? (entry : String × TagEvent) :
    (specOf? stream site defaults entry).map PullSpec.reference =
      upstream? site defaults entry.2 := by
  rw [specOf?, Option.map_map, upstream?_eq]
  rfl

theorem references_recordedSpecs :
    (recordedSpecs stream site defaults).map PullSpec.reference =
      ((stream.heads ++ stream.olderEvents).map Prod.snd).filterMap (upstream? site defaults) := by
  rw [recordedSpecs, List.map_filterMap, List.filterMap_map]
  congr 1
  funext entry
  exact reference_specOf? stream site defaults entry

theorem references_offers : (offers stream site primary defaults).map PullSpec.reference =
    eligible stream site primary defaults := by
  rw [offers, List.map_append, references_recordedSpecs, List.map_append, events_heads,
    events_olderEvents, eligible, ownSpecs, List.map_map]
  congr 1
  exact List.map_id _

theorem repositories_offers : (offers stream site primary defaults).map PullSpec.repository =
    (eligible stream site primary defaults).map fun reference => reference.repository.text := by
  rw [← references_offers, List.map_map]
  rfl

/-- A repository is pulled by the first eligible reference to it. -/
theorem references_specs_candidates (repository : String) :
    ((candidates stream site primary defaults).specs.get? repository).map PullSpec.reference =
      (eligible stream site primary defaults).find? fun reference =>
        reference.repository.text = repository := by
  rw [specs_candidates, Option.map_map, ← references_offers, List.find?_map]
  rfl

/-- The candidates are the eligible repositories, each once, in the order of their first
appearance, and each is pulled by the first eligible reference to it, tag and image id included. -/
theorem candidates_are_first_eligible (stream : ImageStream) (site : LocalRegistry)
    (primary : Bool) (defaults : DefaultRegistry) :
    let found := candidates stream site primary defaults
    let eligible := eligible stream site primary defaults
    found.order = (eligible.map fun reference => reference.repository.text).eraseDups ∧
      (∀ repository, repository ∈ found.specs.keys ↔ repository ∈ found.order) ∧
      (∀ repository, (found.specs.get? repository).map PullSpec.reference =
        eligible.find? fun reference => reference.repository.text = repository) ∧
      found.order.Nodup ∧
      ∀ repository, repository ∈ found.order ↔
        ∃ reference ∈ eligible, reference.repository.text = repository := by
  have order := order_candidates stream site primary defaults
  rw [repositories_offers] at order
  refine ⟨order, mem_keys_candidates stream site primary defaults,
    references_specs_candidates stream site primary defaults,
    nodup_order_candidates stream site primary defaults, fun repository => ?_⟩
  rw [order, List.mem_eraseDups, List.mem_map]

end Stream

end ContainerStreams.Pullthrough
