import ContainerStreams.Proofs.Pullthrough.Naming
import Mathlib.Data.List.Perm.Basic

set_option autoImplicit false

namespace ContainerStreams

namespace ImageStream

/-- The same stream but for the order in which the tags and the events of each tag are recorded. -/
structure Reordered (stream other : ImageStream) : Prop where
  metadata : stream.metadata = other.metadata
  spec : stream.spec = other.spec
  repository : stream.status.repository = other.status.repository
  publicRepository : stream.status.publicRepository = other.status.publicRepository
  tags : ∃ tags, stream.status.tags.Perm tags ∧
    List.Forall₂ (fun history reordered => history.tag = reordered.tag ∧
      history.events.Perm reordered.events) tags other.status.tags

theorem heads_append_olderEvents_perm (stream : ImageStream) :
    (stream.heads ++ stream.olderEvents).Perm stream.events := by
  have whole : stream.events = stream.status.tags.flatMap fun history =>
      ((history.events.take 1).map fun event => (history.tag, event)) ++
        (history.events.drop 1).map fun event => (history.tag, event) := by
    unfold events
    congr 1
    funext history
    rw [← List.map_append, List.take_append_drop]
  rw [whole]
  exact List.flatMap_append_perm _ _ _

namespace Reordered

variable {stream other : ImageStream} (reordered : stream.Reordered other)
include reordered

theorem events_perm : stream.events.Perm other.events := by
  obtain ⟨tags, permuted, matching⟩ := reordered.tags
  have inside : (tags.flatMap fun history => history.events.map fun event =>
      (history.tag, event)).Perm other.events := by
    unfold events
    clear permuted
    generalize other.status.tags = others at matching
    induction matching with
    | nil => exact .refl _
    | @cons history reordered rest others same _ ih =>
      rw [List.flatMap_cons, List.flatMap_cons, same.1]
      exact (same.2.map _).append ih
  exact (permuted.flatMap_right _).trans inside

theorem isInsecure_eq : stream.isInsecure = other.isInsecure := by
  unfold isInsecure
  rw [reordered.metadata]

theorem tagAllowsInsecure_eq (name : String) :
    stream.tagAllowsInsecure name = other.tagAllowsInsecure name := by
  unfold tagAllowsInsecure specTag?
  rw [reordered.spec]

theorem ofStream_eq (aliases : List Registry) :
    LocalRegistry.ofStream stream aliases = LocalRegistry.ofStream other aliases := by
  unfold LocalRegistry.ofStream locations
  rw [reordered.repository, reordered.publicRepository]

end Reordered

end ImageStream

namespace Pullthrough

section Reordered

variable {stream other : ImageStream} (reordered : stream.Reordered other) (site : LocalRegistry)
  (primary : Bool) (defaults : DefaultRegistry)
include reordered

theorem recordedSpecs_perm :
    (recordedSpecs stream site defaults).Perm (recordedSpecs other site defaults) := by
  have sameSpec : specOf? stream site defaults = specOf? other site defaults := by
    funext entry
    unfold specOf?
    rw [reordered.isInsecure_eq, reordered.tagAllowsInsecure_eq]
  have sameEvents : (stream.heads ++ stream.olderEvents).Perm (other.heads ++ other.olderEvents) :=
    stream.heads_append_olderEvents_perm.trans
      (reordered.events_perm.trans other.heads_append_olderEvents_perm.symm)
  unfold recordedSpecs
  rw [sameSpec]
  exact sameEvents.filterMap _

theorem offers_perm :
    (offers stream site primary defaults).Perm (offers other site primary defaults) := by
  have sameOwn : ownSpecs stream site primary = ownSpecs other site primary := by
    unfold ownSpecs
    rw [reordered.isInsecure_eq]
  unfold offers
  rw [sameOwn]
  exact (recordedSpecs_perm reordered site defaults).append_left _

/-- A hostname is marked by the same tags, wherever their events stand. -/
theorem marked_eq (hostname : String) :
    marked stream site defaults hostname = marked other site defaults hostname := by
  have permuted := recordedSpecs_perm reordered site defaults
  unfold marked
  rw [Bool.eq_iff_iff, List.any_eq_true, List.any_eq_true]
  simp only [permuted.mem_iff]

theorem settle_eq : settle stream site defaults = settle other site defaults := by
  funext spec
  unfold settle
  rw [marked_eq reordered]

end Reordered

section Stream

variable (stream : ImageStream) {site : LocalRegistry} (primary : Bool) (defaults : DefaultRegistry)

/-- Offers for one repository are on one host. -/
theorem hostname_eq_of_repository_eq
    (located : ∀ spec ∈ offers stream site primary defaults,
      ∃ registry, spec.reference.registry = some registry)
    (first second : PullSpec) (firstOffered : first ∈ offers stream site primary defaults)
    (secondOffered : second ∈ offers stream site primary defaults)
    (same : first.repository = second.repository) : first.hostname = second.hostname := by
  obtain ⟨left, leftNamed⟩ := located first firstOffered
  obtain ⟨right, rightNamed⟩ := located second secondOffered
  have equal : left = right :=
    ImageReference.registry_eq_of_repository_text_eq _ _ _ _ leftNamed rightNamed same
  unfold PullSpec.hostname ImageReference.hostname?
  rw [leftNamed, rightNamed, equal]

/-- Which offer was made first does not show in whether insecure transport is allowed. -/
theorem insecure_settle (spec : PullSpec)
    (offered : spec ∈ offers stream site primary defaults) :
    (settle stream site defaults spec).insecure =
      (stream.isInsecure || marked stream site defaults spec.hostname) := by
  obtain ⟨byStream, byTag⟩ := insecure_of_mem_offers stream site primary defaults spec offered
  rw [Bool.eq_iff_iff, settle, Bool.or_eq_true, Bool.or_eq_true]
  constructor
  · intro insecure
    exact insecure.elim byTag .inr
  · exact Or.imp_left byStream

/-- Whether insecure transport is allowed for a repository is told by any of its offers. -/
theorem insecure_candidate_of_offer (repository : String) (allowed : Bool)
    (agree : ∀ spec ∈ offers stream site primary defaults,
      spec.repository = repository → (settle stream site defaults spec).insecure = allowed) :
    ((candidates stream site primary defaults).specs.get? repository).map PullSpec.insecure =
      if repository ∈ (offers stream site primary defaults).map PullSpec.repository then
        some allowed
      else none := by
  rw [specs_candidates, Option.map_map]
  cases first : (offers stream site primary defaults).find? fun spec =>
      spec.repository = repository with
  | none =>
    have absent : repository ∉ (offers stream site primary defaults).map PullSpec.repository := by
      intro listed
      obtain ⟨spec, offered, same⟩ := List.mem_map.mp listed
      exact absurd (decide_eq_true same) (List.find?_eq_none.mp first spec offered)
    rw [if_neg absent, Option.map_none]
  | some spec =>
    have offered := List.mem_of_find?_eq_some first
    have same := List.find?_some first
    rw [decide_eq_true_eq] at same
    rw [if_pos (List.mem_map.mpr ⟨spec, offered, same⟩), Option.map_some]
    exact congrArg some (agree spec offered same)

theorem exists_agreement
    (located : ∀ spec ∈ offers stream site primary defaults,
      ∃ registry, spec.reference.registry = some registry)
    (repository : String) : ∃ allowed, ∀ spec ∈ offers stream site primary defaults,
      spec.repository = repository → (settle stream site defaults spec).insecure = allowed := by
  by_cases known : ∃ first ∈ offers stream site primary defaults, first.repository = repository
  · obtain ⟨first, firstOffered, rfl⟩ := known
    refine ⟨stream.isInsecure || marked stream site defaults first.hostname, ?_⟩
    intro spec offered same
    have oneHost := hostname_eq_of_repository_eq stream primary defaults located spec first offered
      firstOffered same
    rw [insecure_settle stream primary defaults spec offered, oneHost]
  · exact ⟨false, fun spec offered same => absurd ⟨spec, offered, same⟩ known⟩

end Stream

/-- A stream with the same events in another order has the same candidates, and insecure transport
is allowed for the same of them. -/
theorem candidates_reordered (stream other : ImageStream) (reordered : stream.Reordered other)
    (aliases : List Registry) (primary : Bool) (defaults : DefaultRegistry) :
    let found := candidates stream (LocalRegistry.ofStream stream aliases) primary defaults
    let again := candidates other (LocalRegistry.ofStream other aliases) primary defaults
    (∀ repository, repository ∈ found.specs.keys ↔ repository ∈ again.specs.keys) ∧
      found.order.Perm again.order ∧
      ∀ repository, (found.specs.get? repository).map PullSpec.insecure =
        (again.specs.get? repository).map PullSpec.insecure := by
  rw [← reordered.ofStream_eq aliases]
  generalize isSite : LocalRegistry.ofStream stream aliases = site
  intro found again
  have permuted := offers_perm reordered site primary defaults
  have located : ∀ spec ∈ offers stream site primary defaults,
      ∃ registry, spec.reference.registry = some registry := by
    intro spec offered
    have listed := List.mem_map_of_mem (f := PullSpec.reference) offered
    rw [references_offers, ← isSite] at listed
    exact exists_registry_of_eligible stream aliases primary defaults spec.reference listed
  have flags (repository : String) : (found.specs.get? repository).map PullSpec.insecure =
      (again.specs.get? repository).map PullSpec.insecure := by
    obtain ⟨allowed, agree⟩ := exists_agreement stream primary defaults located repository
    have agreeAgain : ∀ spec ∈ offers other site primary defaults,
        spec.repository = repository → (settle other site defaults spec).insecure = allowed := by
      intro spec offered same
      rw [← settle_eq reordered]
      exact agree spec (permuted.mem_iff.mpr offered) same
    rw [insecure_candidate_of_offer stream primary defaults repository allowed agree,
      insecure_candidate_of_offer other primary defaults repository allowed agreeAgain]
    simp only [(permuted.map PullSpec.repository).mem_iff]
  have keys (repository : String) :
      repository ∈ found.specs.keys ↔ repository ∈ again.specs.keys := by
    have presence := congrArg Option.isSome (flags repository)
    rw [Option.isSome_map, Option.isSome_map] at presence
    rw [SortedMap.mem_keys, SortedMap.mem_keys, SortedMap.contains, SortedMap.contains, presence]
  refine ⟨keys, ?_, flags⟩
  apply (List.perm_ext_iff_of_nodup (nodup_order_candidates _ _ _ _)
    (nodup_order_candidates _ _ _ _)).mpr
  intro repository
  rw [← mem_keys_candidates, ← mem_keys_candidates]
  exact keys repository

def partlyInsecureStreamReversed : ImageStream :=
  { partlyInsecureStream with status := { tags := partlyInsecureStream.status.tags.reverse } }

/-- The insecure tag now comes first, and the candidate that was offered before it is offered after
it. -/
theorem reversed_tags_are_settled_alike :
    partlyInsecureStream.Reordered partlyInsecureStreamReversed ∧
      let found := candidates partlyInsecureStream
        (LocalRegistry.ofStream partlyInsecureStream []) false .hub
      let again := candidates partlyInsecureStreamReversed
        (LocalRegistry.ofStream partlyInsecureStreamReversed []) false .hub
      found.order = ["quay.io/ns/app", "quay.io/ns/other"] ∧
      again.order = ["quay.io/ns/other", "quay.io/ns/app"] ∧
      (∀ repository, repository ∈ found.specs.keys ↔ repository ∈ again.specs.keys) ∧
      found.order.Perm again.order ∧
      ∀ repository, (found.specs.get? repository).map PullSpec.insecure =
        (again.specs.get? repository).map PullSpec.insecure := by
  have reordered : partlyInsecureStream.Reordered partlyInsecureStreamReversed := by
    refine ⟨rfl, rfl, rfl, rfl, partlyInsecureStream.status.tags.reverse, ?_, ?_⟩
    · exact (List.reverse_perm _).symm
    · exact .cons ⟨rfl, .refl _⟩ (.cons ⟨rfl, .refl _⟩ .nil)
  exact ⟨reordered, rfl, rfl, candidates_reordered _ _ reordered [] false .hub⟩

end Pullthrough

end ContainerStreams
