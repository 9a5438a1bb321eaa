import ContainerStreams.Proofs.Reference.RoundTrip
import Mathlib.Logic.Relation

set_option autoImplicit false

namespace ContainerStreams.DefaultRegistry

/-- One thing that a client assumes of a reference before it pulls. -/
inductive Step (defaults : DefaultRegistry) : ImageReference → ImageReference → Prop
  | host {reference : ImageReference} (unnamed : reference.registry = none) :
    Step defaults reference { reference with registry := some defaults.networkName }
  | rename {reference : ImageReference} {registry : Registry}
      (named : reference.registry = some registry) (known : registry ∈ defaults.alsoKnownAs)
      (other : registry ≠ defaults.networkName) :
    Step defaults reference { reference with registry := some defaults.networkName }
  | library {reference : ImageReference} {project : String}
      (own : defaults.names reference.registry = true) (single : reference.project = none)
      (library : defaults.libraryProject = some project) :
    Step defaults reference { reference with project := some project }
  | tag {reference : ImageReference} {tag : String} (untagged : reference.tag = none)
      (unpinned : reference.imageId = none) (tagged : defaults.defaultTag = some tag) :
    Step defaults reference { reference with tag := some tag }

abbrev Steps (defaults : DefaultRegistry) : ImageReference → ImageReference → Prop :=
  Relation.ReflTransGen defaults.Step

def isOwn (defaults : DefaultRegistry) (reference : ImageReference) : Bool :=
  reference.registry.isNone || defaults.names reference.registry

variable (defaults : DefaultRegistry) {reference next : ImageReference}

theorem names_networkName : defaults.names (some defaults.networkName) = true := by
  simp [names]

theorem names_of_mem {registry : Registry} (known : registry ∈ defaults.alsoKnownAs) :
    defaults.names (some registry) = true := by
  simp [names, known]

theorem complete_eq (reference : ImageReference) : defaults.complete reference =
    { registry := if defaults.isOwn reference then some defaults.networkName
        else reference.registry
      project := if defaults.isOwn reference then reference.project.or defaults.libraryProject
        else reference.project
      name := reference.name
      tag := if reference.tag.isNone && reference.imageId.isNone then defaults.defaultTag
        else reference.tag
      imageId := reference.imageId } := by
  unfold complete isOwn
  dsimp only
  split <;> split <;> simp_all

/-- No step changes what a reference is completed to. -/
theorem complete_of_step (step : defaults.Step reference next) :
    defaults.complete next = defaults.complete reference := by
  cases step with
  | host unnamed => simp [complete_eq, isOwn, unnamed, names_networkName]
  | rename named known other =>
    simp [complete_eq, isOwn, named, names_networkName, names_of_mem, known]
  | library own single library => simp [complete_eq, isOwn, own, single, library]
  | tag untagged unpinned tagged => simp [complete_eq, isOwn, untagged, unpinned, tagged]

theorem complete_of_steps (steps : defaults.Steps reference next) :
    defaults.complete next = defaults.complete reference := by
  induction steps with
  | refl => rfl
  | tail _ last ih => exact (defaults.complete_of_step last).trans ih

/-- A reference of one's own comes to be on the network name. -/
theorem steps_host (own : defaults.isOwn reference = true) :
    defaults.Steps reference { reference with registry := some defaults.networkName } := by
  cases named : reference.registry with
  | none => exact .single (.host named)
  | some registry =>
    by_cases same : registry = defaults.networkName
    · rw [← same, ← named]
    · have known : registry ∈ defaults.alsoKnownAs := by
        simpa [isOwn, names, named, same] using own
      exact .single (.rename named known same)

theorem steps_library (own : defaults.names reference.registry = true) :
    defaults.Steps reference
      { reference with project := reference.project.or defaults.libraryProject } := by
  cases placed : reference.project with
  | some project =>
    rw [Option.some_or, ← placed]
  | none =>
    rw [Option.none_or]
    cases library : defaults.libraryProject with
    | none => rw [← placed]
    | some project => exact .single (.library own placed library)

theorem steps_tag (reference : ImageReference) : defaults.Steps reference
    { reference with
      tag := if reference.tag.isNone && reference.imageId.isNone then defaults.defaultTag
        else reference.tag } := by
  split
  · rename_i bare
    rw [Bool.and_eq_true, Option.isNone_iff_eq_none, Option.isNone_iff_eq_none] at bare
    cases tagged : defaults.defaultTag with
    | none => rw [← bare.1]
    | some tag => exact .single (.tag bare.1 bare.2 tagged)
  · exact .refl

theorem steps_complete (reference : ImageReference) :
    defaults.Steps reference (defaults.complete reference) := by
  rw [complete_eq]
  by_cases own : defaults.isOwn reference = true
  · rw [if_pos own, if_pos own]
    have hosted := defaults.steps_host own
    have placed := hosted.trans (defaults.steps_library defaults.names_networkName)
    exact placed.trans (defaults.steps_tag _)
  · rw [if_neg own, if_neg own]
    exact defaults.steps_tag reference

/-- Nothing is left to assume of a completed reference. -/
theorem not_step_complete (reference : ImageReference) :
    ¬ defaults.Step (defaults.complete reference) next := by
  intro step
  cases step with
  | host unnamed =>
    obtain ⟨registry, named⟩ := defaults.exists_registry_complete reference
    cases unnamed.symm.trans named
  | rename named known other =>
    rw [registry_complete] at named
    split at named
    · exact other (Option.some.inj named).symm
    · rename_i foreign
      simp [named, names_of_mem, known] at foreign
  | library own single library =>
    rw [complete_eq] at own single
    by_cases placed : defaults.isOwn reference = true
    · simp [placed, library] at single
    · simp only [placed, Bool.false_eq_true, if_false] at own
      exact placed (by rw [isOwn, own, Bool.or_true])
  | tag untagged unpinned tagged =>
    rw [complete_eq] at untagged unpinned
    have bare : reference.imageId = none := unpinned
    cases given : reference.tag <;> simp [given, bare, tagged] at untagged

/-- The steps end nowhere else. -/
theorem eq_complete_of_steps (steps : defaults.Steps reference next)
    (ended : ∀ further, ¬ defaults.Step next further) : next = defaults.complete reference := by
  rw [← defaults.complete_of_steps steps]
  rcases (defaults.steps_complete next).cases_head with same | ⟨further, step, -⟩
  · exact same
  · exact absurd step (ended further)

theorem steps_pullTarget (reference : ImageReference) :
    defaults.Steps reference (defaults.pullTarget reference) := by
  unfold pullTarget
  split
  · rename_i completed
    rw [Bool.and_eq_true, Option.isNone_iff_eq_none] at completed
    have placed := defaults.steps_library completed.2
    rwa [completed.1, Option.none_or] at placed
  · exact .refl

/-- Completing a reference is taking the steps that a client takes until none is left, in any order,
and completing it once more changes nothing. The text to pull by is always read, as a reference that
only some of these steps have been taken on, so that it is completed to the same. -/
theorem completed_is_normal_form (s : String) (parses : ImageReference.parse s = .ok reference)
    (valid : ∀ library ∈ defaults.libraryProject, ImageReference.IsComponent library) :
    (∀ other, defaults.Steps reference other →
      ((∀ further, ¬ defaults.Step other further) ↔ other = defaults.complete reference)) ∧
    defaults.Steps reference (defaults.complete reference) ∧
    defaults.complete (defaults.complete reference) = defaults.complete reference ∧
    ∃ target, ImageReference.parse (defaults.pullSpec reference) = .ok target ∧
      defaults.Steps reference target ∧
      defaults.complete target = defaults.complete reference := by
  have reached := defaults.steps_complete reference
  have pulled := defaults.steps_pullTarget reference
  obtain ⟨readable, -⟩ := (ImageReference.parse_eq_ok_iff s reference).mp parses
  refine ⟨?_, reached, defaults.complete_of_steps reached, defaults.pullTarget reference,
    defaults.parse_pullSpec_eq readable valid, pulled, defaults.complete_of_steps pulled⟩
  intro other steps
  refine ⟨defaults.eq_complete_of_steps steps, fun same further => ?_⟩
  subst same
  exact defaults.not_step_complete reference

/-- A single name on the hub by one of its other hostnames. The hostname is kept in the text to pull
by, and both texts are of the same image. -/
theorem busybox_is_pulled_as_completed :
    let index : Registry := ⟨"index.docker.io", none, by decide, by decide⟩
    let busybox : ImageReference := { registry := some index, name := "busybox" }
    ImageReference.parse "index.docker.io/busybox" = .ok busybox ∧
      (∀ library ∈ hub.libraryProject, ImageReference.IsComponent library) ∧
      hub.pullSpec busybox = "index.docker.io/library/busybox" ∧
      (hub.complete busybox).text = "docker.io/library/busybox:latest" ∧
      ∃ target, ImageReference.parse "index.docker.io/library/busybox" = .ok target ∧
        hub.complete target = hub.complete busybox := by
  intro index busybox
  have parses : ImageReference.parse "index.docker.io/busybox" = .ok busybox := by rfl
  have valid : ∀ library ∈ hub.libraryProject, ImageReference.IsComponent library := by
    rintro _ ⟨⟩
    exact ⟨by decide, by decide⟩
  have written : hub.pullSpec busybox = "index.docker.io/library/busybox" := by rfl
  obtain ⟨-, -, -, target, reads, -, same⟩ :=
    hub.completed_is_normal_form "index.docker.io/busybox" parses valid
  rw [written] at reads
  exact ⟨parses, valid, written, rfl, target, reads, same⟩

end ContainerStreams.DefaultRegistry
