import ContainerStreams.Proofs.FirstAppearance
import ContainerStreams.Pullthrough.Candidates

/-!
What the offers made in a survey come to. The order and the specs of the candidates are kept in
step, and both are determined by the list of offers. The mark of a hostname is determined by the
candidates visited, whether or not their repositories were known before.
-/

set_option autoImplicit false

namespace ContainerStreams.Pullthrough

namespace Candidates

/-- The repositories are those of the offers, each at its first appearance, and each is pulled by
the first offer made for it. -/
structure Lists (candidates : Candidates) (offered : List PullSpec) : Prop where
  order : candidates.order = (offered.map PullSpec.repository).eraseDups
  distinct : candidates.order.Nodup
  specs : ∀ repository, candidates.specs.get? repository =
    offered.find? fun spec => spec.repository = repository

namespace Lists

variable {candidates : Candidates} {offered : List PullSpec}

theorem empty : Lists {} [] := ⟨rfl, List.nodup_nil, fun _ => rfl⟩

theorem contains_iff (lists : candidates.Lists offered) (repository : String) :
    candidates.specs.contains repository = true ↔
      ∃ spec ∈ offered, spec.repository = repository := by
  rw [SortedMap.contains, lists.specs, List.find?_isSome]
  simp only [decide_eq_true_eq]

theorem mem_order (lists : candidates.Lists offered) (repository : String) :
    repository ∈ candidates.order ↔ ∃ spec ∈ offered, spec.repository = repository := by
  rw [lists.order, List.mem_eraseDups, List.mem_map]

theorem mem_keys (lists : candidates.Lists offered) (repository : String) :
    repository ∈ candidates.specs.keys ↔ repository ∈ candidates.order := by
  rw [SortedMap.mem_keys, lists.contains_iff, lists.mem_order]

theorem order_offer (lists : candidates.Lists offered) (spec : PullSpec) :
    (candidates.offer spec).order =
      ((offered ++ [spec]).map PullSpec.repository).eraseDups := by
  have listed : (offered.map PullSpec.repository).contains spec.repository =
      candidates.specs.contains spec.repository := by
    rw [Bool.eq_iff_iff, List.contains_iff_mem, List.mem_map, lists.contains_iff]
  rw [List.map_append, List.map_singleton, eraseDups_concat, listed, ← lists.order]
  unfold Candidates.offer
  split
  · rfl
  · rfl

theorem specs_offer (lists : candidates.Lists offered) (spec : PullSpec) (repository : String) :
    (candidates.offer spec).specs.get? repository =
      (offered ++ [spec]).find? fun known => known.repository = repository := by
  rw [List.find?_append]
  unfold Candidates.offer
  split
  · rename_i known
    rw [lists.specs]
    by_cases same : spec.repository = repository
    · subst same
      rw [SortedMap.contains, lists.specs] at known
      obtain ⟨found, isFirst⟩ := Option.isSome_iff_exists.mp known
      rw [isFirst, Option.some_or]
    · simp [same]
  · rename_i fresh
    rw [SortedMap.get?_insert, lists.specs]
    by_cases same : repository = spec.repository
    · subst same
      have unknown : offered.find? (fun known => known.repository = spec.repository) = none := by
        rw [← lists.specs]
        simpa [SortedMap.contains] using fresh
      simp [unknown]
    · simp [same, Ne.symm same]

theorem offer (lists : candidates.Lists offered) (spec : PullSpec) :
    (candidates.offer spec).Lists (offered ++ [spec]) := by
  have order := lists.order_offer spec
  refine ⟨order, ?_, lists.specs_offer spec⟩
  rw [order]
  exact nodup_eraseDups _

theorem foldl_offer (lists : candidates.Lists offered) (specs : List PullSpec) :
    (specs.foldl Candidates.offer candidates).Lists (offered ++ specs) := by
  induction specs generalizing candidates offered with
  | nil => simpa using lists
  | cons spec rest ih => simpa using ih (lists.offer spec)

end Lists

end Candidates

namespace Survey

theorem marks_visit (survey : Survey) (spec : PullSpec) (hostname : String) :
    (survey.visit spec).marks hostname =
      if hostname = spec.hostname then survey.marks hostname || spec.insecure
      else survey.marks hostname := by
  unfold marks visit
  rw [SortedMap.get?_insert]
  split
  · rename_i same
    rw [same]
    rfl
  · rfl

/-- A hostname is marked exactly if a candidate visited on it is insecure. -/
def Marks (survey : Survey) (visited : List PullSpec) : Prop :=
  ∀ hostname, survey.marks hostname =
    visited.any fun spec => spec.hostname = hostname && spec.insecure

theorem Marks.empty (candidates : Candidates) : Marks ⟨candidates, {}⟩ [] := fun _ => rfl

theorem Marks.visit {survey : Survey} {visited : List PullSpec} (marks : survey.Marks visited)
    (spec : PullSpec) : (survey.visit spec).Marks (visited ++ [spec]) := by
  intro hostname
  rw [marks_visit, List.any_append, ← marks hostname]
  by_cases same : hostname = spec.hostname
  · subst same
    simp
  · simp [same, Ne.symm same]

theorem Marks.foldl_visit {survey : Survey} {visited : List PullSpec}
    (marks : survey.Marks visited) (specs : List PullSpec) :
    (specs.foldl Survey.visit survey).Marks (visited ++ specs) := by
  induction specs generalizing survey visited with
  | nil => simpa using marks
  | cons spec rest ih => simpa using ih (marks.visit spec)

theorem candidates_foldl_visit (survey : Survey) (specs : List PullSpec) :
    (specs.foldl visit survey).candidates = specs.foldl Candidates.offer survey.candidates := by
  induction specs generalizing survey with
  | nil => rfl
  | cons spec rest ih => exact ih (survey.visit spec)

end Survey

section Stream

variable (stream : ImageStream) (site : LocalRegistry) (primary : Bool) (defaults : DefaultRegistry)

/-- Everything that is offered, most preferred first and with repetitions. -/
def offers : List PullSpec :=
  ownSpecs stream site primary ++ recordedSpecs stream site defaults

/-- Whether a candidate that some event stands for marks the hostname. -/
def marked (hostname : String) : Bool :=
  (recordedSpecs stream site defaults).any fun spec => spec.hostname = hostname && spec.insecure

def settle (spec : PullSpec) : PullSpec :=
  { spec with insecure := spec.insecure || marked stream site defaults spec.hostname }

/-- Before the last pass over the specs, the candidates are the first offers. -/
theorem surveyed_lists : ∃ survey : Survey,
    candidates stream site primary defaults = survey.settled ∧
      survey.candidates.Lists (offers stream site primary defaults) ∧
      survey.Marks (recordedSpecs stream site defaults) := by
  refine ⟨_, rfl, ?_, ?_⟩
  · rw [Survey.candidates_foldl_visit]
    exact ((Candidates.Lists.empty.foldl_offer _).foldl_offer _)
  · exact (Survey.Marks.empty _).foldl_visit _

theorem order_candidates : (candidates stream site primary defaults).order =
    ((offers stream site primary defaults).map PullSpec.repository).eraseDups := by
  obtain ⟨survey, result, lists, -⟩ := surveyed_lists stream site primary defaults
  rw [result]
  exact lists.order

theorem nodup_order_candidates : (candidates stream site primary defaults).order.Nodup := by
  obtain ⟨survey, result, lists, -⟩ := surveyed_lists stream site primary defaults
  rw [result]
  exact lists.distinct

theorem specs_candidates (repository : String) :
    (candidates stream site primary defaults).specs.get? repository =
      ((offers stream site primary defaults).find? fun spec => spec.repository = repository).map
        (settle stream site defaults) := by
  obtain ⟨survey, result, lists, marks⟩ := surveyed_lists stream site primary defaults
  rw [result, Survey.settled, SortedMap.get?_map, lists.specs]
  congr 1
  funext spec
  rw [marks spec.hostname]
  rfl

theorem mem_keys_candidates (repository : String) :
    repository ∈ (candidates stream site primary defaults).specs.keys ↔
      repository ∈ (candidates stream site primary defaults).order := by
  obtain ⟨survey, result, lists, -⟩ := surveyed_lists stream site primary defaults
  rw [SortedMap.mem_keys, SortedMap.contains, specs_candidates, Option.isSome_map, ← lists.specs,
    result, ← SortedMap.contains, ← SortedMap.mem_keys]
  exact lists.mem_keys repository

end Stream

end ContainerStreams.Pullthrough
