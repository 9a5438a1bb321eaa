import ContainerStreams.Proofs.Pullthrough.Eligibility

set_option autoImplicit false

namespace ContainerStreams

theorem ImageStream.tagAllowsInsecure_iff (stream : ImageStream) (name : String) :
    stream.tagAllowsInsecure name = true ↔
      ∃ tag, stream.specTag? name = some tag ∧ tag.importPolicy.insecure = true := by
  unfold tagAllowsInsecure
  cases stream.specTag? name <;> simp

theorem ImageStream.mem_heads_append_olderEvents (stream : ImageStream)
    (entry : String × TagEvent) :
    entry ∈ stream.heads ++ stream.olderEvents ↔
      ∃ history ∈ stream.status.tags, ∃ event ∈ history.events, entry = (history.tag, event) := by
  have split (history : TagHistory) (event : TagEvent) :
      event ∈ history.events ↔ event ∈ history.events.take 1 ∨ event ∈ history.events.drop 1 := by
    rw [← List.mem_append, List.take_append_drop]
  simp only [heads, olderEvents, List.mem_append, List.mem_flatMap, List.mem_map, split]
  constructor
  · intro listed
    rcases listed with ⟨history, recorded, event, newest, rfl⟩ |
      ⟨history, recorded, event, older, rfl⟩
    · exact ⟨history, recorded, event, Or.inl newest, rfl⟩
    · exact ⟨history, recorded, event, Or.inr older, rfl⟩
  · intro isRecorded
    obtain ⟨history, recorded, event, newest | older, rfl⟩ := isRecorded
    · exact Or.inl ⟨history, recorded, event, newest, rfl⟩
    · exact Or.inr ⟨history, recorded, event, older, rfl⟩

namespace Pullthrough

/-- Only a reference without a registry has the empty hostname. -/
theorem hostname_eq_iff (first second : PullSpec) (registry : Registry)
    (named : first.reference.registry = some registry) :
    first.hostname = second.hostname ↔
      first.reference.hostname? = second.reference.hostname? := by
  unfold PullSpec.hostname ImageReference.hostname?
  rw [named]
  cases second.reference.registry with
  | none => simpa using registry.text_ne_empty
  | some other => simp

section Stream

variable (stream : ImageStream) (site : LocalRegistry) (primary : Bool) (defaults : DefaultRegistry)

theorem mem_recordedSpecs (spec : PullSpec) : spec ∈ recordedSpecs stream site defaults ↔
    ∃ history ∈ stream.status.tags, ∃ event ∈ history.events,
      upstream? site defaults event = some spec.reference ∧
        spec.insecure = (stream.isInsecure || stream.tagAllowsInsecure history.tag) := by
  simp only [recordedSpecs, List.mem_filterMap, ImageStream.mem_heads_append_olderEvents,
    upstream?_eq, specOf?, Option.map_eq_some_iff]
  constructor
  · intro offered
    obtain ⟨entry, ⟨history, recorded, event, member, rfl⟩, parsed, remote, rfl⟩ := offered
    exact ⟨history, recorded, event, member, ⟨parsed, remote, rfl⟩, rfl⟩
  · intro standsFor
    obtain ⟨history, recorded, event, member, ⟨parsed, remote, completed⟩, policy⟩ := standsFor
    refine ⟨(history.tag, event), ⟨history, recorded, event, member, rfl⟩, parsed, remote, ?_⟩
    cases spec
    simp_all

/-- An offer is insecure for its stream, or for a tag and then marks its own hostname. -/
theorem insecure_of_mem_offers (spec : PullSpec)
    (offered : spec ∈ offers stream site primary defaults) :
    (stream.isInsecure = true → spec.insecure = true) ∧
      (spec.insecure = true → stream.isInsecure = true ∨
        marked stream site defaults spec.hostname = true) := by
  rcases List.mem_append.mp offered with own | recorded
  · obtain ⟨reference, -, rfl⟩ := List.mem_map.mp own
    exact ⟨id, Or.inl⟩
  · refine ⟨fun insecure => ?_, fun insecure => Or.inr ?_⟩
    · obtain ⟨history, -, event, -, -, policy⟩ := (mem_recordedSpecs _ _ _ _).mp recorded
      rw [policy, insecure, Bool.true_or]
    · exact List.any_eq_true.mpr ⟨spec, recorded, by simp [insecure]⟩

/-- A marked hostname is that of an eligible event whose tag, or whose stream, is insecure. -/
theorem marked_iff (spec : PullSpec) :
    stream.isInsecure = true ∨ marked stream site defaults spec.hostname = true ↔
      stream.isInsecure = true ∨ ∃ history ∈ stream.status.tags, ∃ event ∈ history.events,
        ∃ reference, upstream? site defaults event = some reference ∧
          reference.hostname? = spec.reference.hostname? ∧
          stream.tagAllowsInsecure history.tag = true := by
  cases insecure : stream.isInsecure with
  | true => simp
  | false =>
    simp only [Bool.false_eq_true, false_or, marked, List.any_eq_true, Bool.and_eq_true,
      decide_eq_true_eq, mem_recordedSpecs, insecure, Bool.false_or]
    constructor
    · intro isMarked
      obtain ⟨found, ⟨history, recorded, event, member, upstream, policy⟩, same, marks⟩ := isMarked
      obtain ⟨parsed, -, -, completed⟩ := (upstream?_eq_some_iff _ _ _ _).mp upstream
      obtain ⟨registry, named⟩ := defaults.exists_registry_complete parsed
      rw [completed] at named
      exact ⟨history, recorded, event, member, found.reference, upstream,
        (hostname_eq_iff found spec registry named).mp same, policy ▸ marks⟩
    · intro isAllowed
      obtain ⟨history, recorded, event, member, reference, upstream, same, allowed⟩ := isAllowed
      obtain ⟨parsed, -, -, completed⟩ := (upstream?_eq_some_iff _ _ _ _).mp upstream
      obtain ⟨registry, named⟩ := defaults.exists_registry_complete parsed
      rw [completed] at named
      exact ⟨⟨reference, true⟩, ⟨history, recorded, event, member, upstream, allowed.symm⟩,
        (hostname_eq_iff ⟨reference, true⟩ spec registry named).mpr same, rfl⟩

/-- Insecure transport is allowed for a candidate exactly if the stream allows it or a tag does
that recorded an eligible event on the candidate's hostname, whichever candidate that event stands
for and wherever it stands in the history. -/
theorem insecure_candidate_iff (repository : String) (spec : PullSpec)
    (found : (candidates stream site primary defaults).specs.get? repository = some spec) :
    spec.insecure = true ↔ stream.isInsecure = true ∨
      ∃ history ∈ stream.status.tags, ∃ event ∈ history.events, ∃ parsed,
        ImageReference.parse event.pullReference = .ok parsed ∧
        (∀ registry, parsed.registry = some registry → registry ∉ site.hostnames) ∧
        (defaults.complete parsed).hostname? = spec.reference.hostname? ∧
        ∃ tag, stream.specTag? history.tag = some tag ∧ tag.importPolicy.insecure = true := by
  rw [specs_candidates] at found
  obtain ⟨offer, first, rfl⟩ := Option.map_eq_some_iff.mp found
  obtain ⟨byStream, byTag⟩ := insecure_of_mem_offers stream site primary defaults offer
    (List.mem_of_find?_eq_some first)
  have settled : (settle stream site defaults offer).insecure = true ↔
      stream.isInsecure = true ∨ marked stream site defaults offer.hostname = true := by
    rw [settle, Bool.or_eq_true]
    exact ⟨fun insecure => insecure.elim byTag Or.inr, Or.imp_left byStream⟩
  rw [settled, marked_iff]
  simp only [upstream?_eq_some_iff, ImageStream.tagAllowsInsecure_iff]
  refine or_congr_right (exists_congr fun history => and_congr_right fun _ =>
    exists_congr fun event => and_congr_right fun _ => ?_)
  constructor
  · intro isUpstream
    obtain ⟨reference, ⟨parsed, read, remote, rfl⟩, same, allowed⟩ := isUpstream
    exact ⟨parsed, read, remote, same, allowed⟩
  · intro isRead
    obtain ⟨parsed, read, remote, same, allowed⟩ := isRead
    exact ⟨_, ⟨parsed, read, remote, rfl⟩, same, allowed⟩

end Stream

def newYear : Instant := ⟨⟨2021, 1, 1⟩, 0, 0, 0, by decide⟩

/-- Two repositories of one registry, the second of them recorded under an insecure tag. -/
def partlyInsecureStream : ImageStream where
  spec := { tags := [{ name := "v2", importPolicy := { insecure := true } }] }
  status := { tags := [
    { tag := "v1", events := [{
      created := newYear, pullReference := "quay.io/ns/app:v1", image := "app" }] },
    { tag := "v2", events := [{
      created := newYear, pullReference := "quay.io/ns/other:v2", image := "other" }] }] }

/-- The tag of the second repository marks the first one, which was offered before it. -/
theorem earlier_candidate_is_insecure :
    ∃ spec, (candidates partlyInsecureStream {} false .hub).specs.get? "quay.io/ns/app" =
      some spec ∧ spec.insecure = true := by
  let quay : Registry := ⟨"quay.io", none, by decide, by decide⟩
  let app : ImageReference := {
    registry := some quay, project := some "ns", name := "app", tag := some "v1" }
  let other : ImageReference := {
    registry := some quay, project := some "ns", name := "other", tag := some "v2" }
  refine ⟨⟨app, true⟩, rfl, (insecure_candidate_iff partlyInsecureStream {} false .hub
    "quay.io/ns/app" ⟨app, true⟩ rfl).mpr (Or.inr ?_)⟩
  refine ⟨partlyInsecureStream.status.tags[1], by simp [partlyInsecureStream], _,
    List.mem_singleton.mpr rfl, other, rfl, ?_, rfl, _, rfl, rfl⟩
  intro registry _ known
  cases known

end Pullthrough

end ContainerStreams
