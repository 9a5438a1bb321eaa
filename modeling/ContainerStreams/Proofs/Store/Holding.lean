import ContainerStreams.Proofs.Store.Recency
import Mathlib.Data.List.Nodup

set_option autoImplicit false

namespace ContainerStreams.ProjectStore

variable {α : Type} (store : ProjectStore α)

/-- Whether the store can answer for a project. -/
def holds (project : String) : Bool :=
  (store.find? project).any store.isFresh

def unexpired : List (Entry α) :=
  store.entries.filter store.isFresh

def promoting (entry : Entry α) : ProjectStore α :=
  { store with entries := entry :: store.without entry.project }

def dropping (project : String) : ProjectStore α :=
  { store with entries := store.without project }

/-- To add a project another one has to go, which is the one used least recently. -/
structure Evicts (project victim : String) : Prop where
  unknown : project ∉ store.projects
  full : store.size = store.limit
  idle : store.projects.getLast? = some victim

/-- What is too old stays so. -/
theorem not_isFresh_later {entry : Entry α} (old : store.isFresh entry = false) (seconds : Nat) :
    (store.later seconds).isFresh entry = false := by
  have grown : ¬ store.now - entry.added < store.ttl := of_decide_eq_false old
  exact decide_eq_false fun young => grown (by
    change store.now + seconds - entry.added < store.ttl at young
    omega)

section LookUp

variable {store} {project : String}

theorem holds_eq_true_iff : store.holds project = true ↔
    ∃ entry, store.find? project = some entry ∧ store.isFresh entry = true := by
  rw [holds, Option.any_eq_true]

/-- What the store can answer for is answered, and used. -/
theorem get_of_holds {entry : Entry α} (found : store.find? project = some entry)
    (fresh : store.isFresh entry = true) :
    store.get project = (some entry.value, store.promoting entry) := by
  have ⟨_, same⟩ := store.mem_and_project_eq_of_find? found
  rw [get, found]
  exact (if_pos fresh).trans (by rw [promoting, same])

/-- What the store cannot answer for is not kept any longer. -/
theorem get_of_not_holds (lacking : store.holds project = false) :
    store.get project = (none, store.dropping project) := by
  cases found : store.find? project with
  | none =>
    have absent := (store.find?_eq_none_iff project).mp found
    rw [store.get_of_not_mem absent, dropping, store.without_of_not_mem absent]
  | some entry =>
    have old : ¬ store.isFresh entry = true := by simpa [holds, found] using lacking
    rw [get, found]
    exact if_neg old

theorem find?_of_mem (bounded : store.Bounded) {entry : Entry α} (member : entry ∈ store.entries) :
    store.find? entry.project = some entry := by
  have held : entry.project ∈ store.projects := List.mem_map_of_mem member
  obtain ⟨other, known, same, found⟩ := store.exists_find?_of_mem held
  rw [found, List.inj_on_of_nodup_map bounded.nodup known member same]

theorem not_isFresh_of_not_holds (bounded : store.Bounded) {entry : Entry α}
    (member : entry ∈ store.entries) (lacking : store.holds entry.project = false) :
    store.isFresh entry = false := by
  simpa [holds, find?_of_mem bounded member] using lacking

theorem not_mem_projects_of_not_holds (young : store.Unexpired)
    (lacking : store.holds project = false) : project ∉ store.projects := by
  intro known
  obtain ⟨entry, member, -, found⟩ := store.exists_find?_of_mem known
  simp [holds, found, young entry member] at lacking

theorem unexpired_dropping (bounded : store.Bounded) (lacking : store.holds project = false) :
    (store.dropping project).unexpired = store.unexpired := by
  change (store.without project).filter store.isFresh = store.entries.filter store.isFresh
  rw [without, List.filter_filter]
  apply List.filter_congr
  intro entry member
  by_cases same : entry.project = project
  · subst same
    simp [not_isFresh_of_not_holds bounded member lacking]
  · simp [same]

theorem add_dropping (value : α) :
    (store.dropping project).add project value = store.add project value := by
  have twice : (store.dropping project).without project = store.without project := by
    rw [without, dropping, without, List.filter_filter]
    simp only [Bool.and_self]
  simp only [add, twice]
  rfl

end LookUp

section Entries

variable {store}

theorem projects_dropping (project : String) :
    (store.dropping project).projects = store.projects.filter fun other => other ≠ project :=
  store.projects_without project

theorem projects_promoting (entry : Entry α) : (store.promoting entry).projects =
    entry.project :: store.projects.filter fun other => other ≠ entry.project :=
  congrArg (List.cons entry.project) (store.projects_without entry.project)

theorem mem_projects_dropping_iff (project other : String) :
    other ∈ (store.dropping project).projects ↔ other ∈ store.projects ∧ other ≠ project := by
  rw [projects_dropping, List.mem_filter, decide_eq_true_eq]

theorem mem_projects_promoting_iff (entry : Entry α) (other : String) :
    other ∈ (store.promoting entry).projects ↔
      other = entry.project ∨ other ∈ store.projects := by
  rw [projects_promoting, List.mem_cons, List.mem_filter, decide_eq_true_eq]
  by_cases same : other = entry.project
  · exact iff_of_true (.inl same) (.inl same)
  · simp only [same, false_or, ne_eq, not_false_iff, and_true]

theorem mem_projects_add (project : String) (value : α) :
    project ∈ (store.add project value).projects := by
  have ⟨member, _⟩ := mem_and_project_eq_of_find? _ (store.find?_add project value)
  exact List.mem_map_of_mem member

theorem mem_entries_of_mem_dropping {project : String} {entry : Entry α}
    (member : entry ∈ (store.dropping project).entries) : entry ∈ store.entries :=
  List.mem_of_mem_filter member

theorem mem_entries_of_mem_promoting {used entry : Entry α} (known : used ∈ store.entries)
    (member : entry ∈ (store.promoting used).entries) : entry ∈ store.entries := by
  rcases List.mem_cons.mp member with rfl | other
  · exact known
  · exact List.mem_of_mem_filter other

theorem mem_entries_add {project : String} {value : α} {entry : Entry α}
    (member : entry ∈ (store.add project value).entries) :
    entry = ⟨project, store.now, value⟩ ∨ entry ∈ store.entries ∧ entry.project ≠ project := by
  rcases List.mem_cons.mp (List.mem_of_mem_take member) with new | old
  · exact .inl new
  · have ⟨known, differs⟩ := List.mem_filter.mp old
    exact .inr ⟨known, of_decide_eq_true differs⟩

theorem eq_or_mem_of_mem_projects_add {project other : String} {value : α}
    (held : other ∈ (store.add project value).projects) :
    other = project ∨ other ∈ store.projects := by
  obtain ⟨entry, member, rfl⟩ := List.mem_map.mp held
  rcases mem_entries_add member with rfl | ⟨known, -⟩
  · exact .inl rfl
  · exact .inr (List.mem_map_of_mem known)

end Entries

section Eviction

/-- Of items that fill all places but for one, only the last one has none. -/
theorem not_mem_take_iff {items : List String} {places : Nat} (distinct : items.Nodup)
    (short : items.length ≤ places + 1) {item : String} (member : item ∈ items) :
    item ∉ items.take places ↔ items.length = places + 1 ∧ items.getLast? = some item := by
  rcases List.eq_nil_or_concat' items with rfl | ⟨front, last, rfl⟩
  · cases member
  · rw [List.length_append, List.length_singleton] at short
    have apart : last ∉ front := by
      rw [List.nodup_append] at distinct
      exact fun twice => distinct.2.2 last twice last (List.mem_singleton_self last) rfl
    rw [List.getLast?_concat, List.length_append, List.length_singleton, Option.some.injEq]
    by_cases full : front.length = places
    · subst full
      rw [List.take_left]
      constructor
      · intro unplaced
        have isLast := (List.mem_append.mp member).resolve_left unplaced
        exact ⟨rfl, (List.mem_singleton.mp isLast).symm⟩
      · rintro ⟨-, rfl⟩
        exact apart
    · rw [List.take_of_length_le (by rw [List.length_append, List.length_singleton]; omega)]
      exact iff_of_false (not_not_intro member) (by omega)

variable {store} {project victim : String} {value : α}

/-- An addition displaces a project exactly if it has to go. -/
theorem displaced_iff (bounded : store.Bounded) (held : victim ∈ store.projects) :
    victim ∉ (store.add project value).projects ↔ store.Evicts project victim := by
  have positive : 1 ≤ store.limit := Nat.le_max_right _ _
  obtain ⟨places, same⟩ : ∃ places, store.limit = places + 1 := ⟨store.limit - 1, by omega⟩
  have short := bounded.size_le
  rw [size_eq_length_projects, same] at short
  rw [projects_add, same, List.take_succ_cons, List.mem_cons, not_or]
  by_cases known : project ∈ store.projects
  · -- The project takes a place that it has had already.
    have fewer := store.length_filter_ne_lt known
    rw [List.take_of_length_le (by omega)]
    refine iff_of_false ?_ fun evicts => evicts.unknown known
    rintro ⟨differs, unkept⟩
    exact unkept (List.mem_filter.mpr ⟨held, decide_eq_true differs⟩)
  · have differs : victim ≠ project := fun same => known (same ▸ held)
    have others : (store.projects.filter fun other => other ≠ project) = store.projects := by
      apply List.filter_eq_self.mpr
      intro other held
      exact decide_eq_true fun same => known (same ▸ held)
    rw [others, not_mem_take_iff bounded.nodup short held, and_iff_right differs]
    constructor
    · rintro ⟨full, idle⟩
      exact ⟨known, (size_eq_length_projects store).trans (full.trans same.symm), idle⟩
    · intro evicts
      have full := evicts.full
      rw [size_eq_length_projects, same] at full
      exact ⟨full, evicts.idle⟩

end Eviction

end ContainerStreams.ProjectStore
