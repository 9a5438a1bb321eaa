import ContainerStreams.Proofs.FirstAppearance
import ContainerStreams.Store.Basic
import Mathlib.Data.List.Induction
import Mathlib.Data.List.Infix

/-!
What a store in memory keeps over a course of actions. The store remembers no more than its entries,
while a description by recency speaks of all uses there have ever been. Main statement: as long as
nothing expires, the store holds the most recently used of all projects ever added, each with the
value added for it last; and if everything expires at once, a look-up finds nothing and removes what
it looked for.
-/

set_option autoImplicit false

namespace ContainerStreams

namespace ProjectStore

variable {α : Type}

/-- What is done with a store, and the time that passes meanwhile. -/
inductive Action (α : Type) where
  | add (project : String) (value : α)
  | get (project : String)
  | wait (seconds : Nat)

def after (store : ProjectStore α) : Action α → ProjectStore α
  | .add project value => store.add project value
  | .get project => (store.get project).2
  | .wait seconds => store.later seconds

def run (store : ProjectStore α) (actions : List (Action α)) : ProjectStore α :=
  actions.foldl after store

/-- The project that an action uses: one that is added, or one that is found. -/
def used? (store : ProjectStore α) : Action α → Option String
  | .add project _ => some project
  | .get project => if (store.get project).1.isSome then some project else none
  | .wait _ => none

def uses (store : ProjectStore α) : List (Action α) → List String
  | [] => []
  | action :: rest => (store.used? action).toList ++ (store.after action).uses rest

/-- The projects used, each once, latest use first. -/
def byRecency (uses : List String) : List String :=
  uses.reverse.eraseDups

/-- The value that a project was added with last. -/
def lastAdded? (actions : List (Action α)) (project : String) : Option α :=
  actions.reverse.findSome? fun
    | .add added value => if added = project then some value else none
    | _ => none

def projects (store : ProjectStore α) : List String :=
  store.entries.map Entry.project

def Unexpired (store : ProjectStore α) : Prop :=
  ∀ entry ∈ store.entries, store.isFresh entry = true

/-- At no time in the course is an entry too old. -/
def NothingExpires (store : ProjectStore α) (actions : List (Action α)) : Prop :=
  ∀ before, before <+: actions → (store.run before).Unexpired

instance (store : ProjectStore α) : Decidable store.Unexpired :=
  inferInstanceAs (Decidable (∀ entry ∈ store.entries, store.isFresh entry = true))

instance (store : ProjectStore α) (actions : List (Action α)) :
    Decidable (store.NothingExpires actions) :=
  decidable_of_iff (∀ before ∈ actions.inits, (store.run before).Unexpired) (by
    simp only [List.mem_inits, NothingExpires])

section Course

variable (store : ProjectStore α) (actions : List (Action α)) (action : Action α)

theorem run_concat : store.run (actions ++ [action]) = (store.run actions).after action :=
  List.foldl_append

theorem uses_concat : store.uses (actions ++ [action]) =
    store.uses actions ++ ((store.run actions).used? action).toList := by
  induction actions generalizing store with
  | nil => simp [uses, run]
  | cons first rest ih =>
    rw [List.cons_append, uses, uses, ih, List.append_assoc]
    rfl

theorem byRecency_concat (uses : List String) (project : String) :
    byRecency (uses ++ [project]) =
      project :: (byRecency uses).filter fun other => other ≠ project := by
  rw [byRecency, List.reverse_append, List.reverse_singleton, List.singleton_append,
    List.eraseDups_cons, eraseDups_filter]
  congr 2
  funext other
  rw [Bool.eq_iff_iff]
  simp

theorem nodup_byRecency (uses : List String) : (byRecency uses).Nodup :=
  nodup_eraseDups _

theorem mem_byRecency (uses : List String) (project : String) :
    project ∈ byRecency uses ↔ project ∈ uses := by
  rw [byRecency, List.mem_eraseDups, List.mem_reverse]

theorem settings_after :
    (store.after action).limit = store.limit ∧ (store.after action).ttl = store.ttl := by
  cases action with
  | add project value => exact ⟨rfl, rfl⟩
  | get project =>
    simp only [after, get]
    split
    · exact ⟨rfl, rfl⟩
    · split <;> exact ⟨rfl, rfl⟩
  | wait seconds => exact ⟨rfl, rfl⟩

theorem lastAdded?_concat (project : String) : lastAdded? (actions ++ [action]) project =
    match action with
    | .add added value => if added = project then some value else lastAdded? actions project
    | _ => lastAdded? actions project := by
  unfold lastAdded?
  rw [List.reverse_append, List.reverse_singleton, List.singleton_append, List.findSome?_cons]
  cases action with
  | add added value =>
    dsimp only
    by_cases same : added = project
    · simp [same]
    · simp [same]
  | get project => rfl
  | wait seconds => rfl

end Course

section Entries

variable (store : ProjectStore α)

theorem projects_without (project : String) :
    (store.without project).map Entry.project =
      store.projects.filter fun other => other ≠ project := by
  rw [projects, List.filter_map]
  rfl

theorem projects_add (project : String) (value : α) : (store.add project value).projects =
    (project :: store.projects.filter fun other => other ≠ project).take store.limit := by
  rw [← projects_without, projects, add, List.map_take, List.map_cons]

theorem length_filter_ne_lt {project : String} (held : project ∈ store.projects) :
    (store.projects.filter fun other => other ≠ project).length < store.projects.length := by
  rw [List.length_filter_lt_length_iff_exists]
  exact ⟨project, held, by simp⟩

theorem find?_eq_none_iff (project : String) :
    store.find? project = none ↔ project ∉ store.projects := by
  rw [find?, List.find?_eq_none, projects, List.mem_map]
  simp

theorem without_of_not_mem {project : String} (absent : project ∉ store.projects) :
    store.without project = store.entries := by
  apply List.filter_eq_self.mpr
  intro entry member
  exact decide_eq_true fun same => absent (List.mem_map.mpr ⟨entry, member, same⟩)

/-- A look-up of a project that is not held leaves everything as it is. -/
theorem get_of_not_mem {project : String} (absent : project ∉ store.projects) :
    store.get project = (none, store) := by
  rw [get, (store.find?_eq_none_iff project).mpr absent]

theorem mem_and_project_eq_of_find? {project : String} {entry : Entry α}
    (found : store.find? project = some entry) :
    entry ∈ store.entries ∧ entry.project = project := by
  have chosen := List.find?_some found
  exact ⟨List.mem_of_find?_eq_some found, of_decide_eq_true chosen⟩

theorem exists_find?_of_mem {project : String} (held : project ∈ store.projects) :
    ∃ entry ∈ store.entries, entry.project = project ∧ store.find? project = some entry := by
  cases found : store.find? project with
  | none => exact absurd held ((store.find?_eq_none_iff project).mp found)
  | some entry =>
    obtain ⟨member, same⟩ := store.mem_and_project_eq_of_find? found
    exact ⟨entry, member, same, rfl⟩

/-- A fresh entry is answered and takes the first place. -/
theorem exists_get_of_mem (fresh : store.Unexpired) {project : String}
    (held : project ∈ store.projects) :
    ∃ entry ∈ store.entries, entry.project = project ∧ store.get project =
      (some entry.value, { store with entries := entry :: store.without project }) := by
  obtain ⟨entry, member, same, found⟩ := store.exists_find?_of_mem held
  refine ⟨entry, member, same, ?_⟩
  rw [get, found]
  exact if_pos (fresh entry member)

/-- A project is in front after its use. -/
theorem projects_used (fresh : store.Unexpired) (short : store.projects.length ≤ store.limit)
    (action : Action α) (project : String) (used : store.used? action = some project) :
    (store.after action).projects =
      (project :: store.projects.filter fun other => other ≠ project).take store.limit := by
  cases action with
  | add added value =>
    obtain rfl : added = project := Option.some.inj used
    exact store.projects_add added value
  | get wanted =>
    by_cases held : wanted ∈ store.projects
    · obtain ⟨entry, -, same, answer⟩ := store.exists_get_of_mem fresh held
      simp only [used?, answer, Option.isSome_some, if_true, Option.some.injEq] at used
      subst used
      have fewer := store.length_filter_ne_lt held
      have fits : (wanted :: store.projects.filter fun other => other ≠ wanted).length ≤
          store.limit := by
        rw [List.length_cons]
        omega
      rw [List.take_of_length_le fits, ← store.projects_without wanted]
      simp only [after, answer, projects, List.map_cons, same]
    · simp [used?, store.get_of_not_mem held] at used
  | wait seconds => cases used

/-- Nothing else changes the projects that are held. -/
theorem projects_unused (fresh : store.Unexpired) (action : Action α)
    (unused : store.used? action = none) : (store.after action).projects = store.projects := by
  cases action with
  | add added value => cases unused
  | get wanted =>
    by_cases held : wanted ∈ store.projects
    · obtain ⟨entry, -, -, answer⟩ := store.exists_get_of_mem fresh held
      simp [used?, answer] at unused
    · rw [after, store.get_of_not_mem held]
  | wait seconds => rfl

/-- An entry stays as it is until its project is added again. -/
theorem mem_entries_after (action : Action α) (entry : Entry α)
    (member : entry ∈ (store.after action).entries) :
    (∃ value, action = .add entry.project value ∧ entry.value = value) ∨
      entry ∈ store.entries ∧ ∀ value, action ≠ .add entry.project value := by
  cases action with
  | add added value =>
    rcases List.mem_cons.mp (List.mem_of_mem_take member) with rfl | later
    · exact .inl ⟨value, rfl, rfl⟩
    · have ⟨known, other⟩ := List.mem_filter.mp later
      refine .inr ⟨known, ?_⟩
      rintro _ ⟨⟩
      simp at other
  | get wanted =>
    refine .inr ⟨?_, nofun⟩
    simp only [after, get] at member
    split at member
    · exact member
    · rename_i first found
      split at member
      · rcases List.mem_cons.mp member with rfl | later
        · exact List.mem_of_find?_eq_some found
        · exact (List.mem_filter.mp later).1
      · exact (List.mem_filter.mp member).1
  | wait seconds => exact .inr ⟨member, nofun⟩

end Entries

/-- Whether a project that has just been used is dropped from a ranking before or after the ranking
is cut off makes no difference to the first of it. -/
theorem take_cons_filter_take (project : String) (ranked : List String) (limit : Nat)
    (distinct : ranked.Nodup) :
    (project :: (ranked.take limit).filter fun other => other ≠ project).take limit =
      (project :: ranked.filter fun other => other ≠ project).take limit := by
  cases limit with
  | zero => rfl
  | succ limit =>
    rw [List.take_succ_cons, List.take_succ_cons]
    congr 1
    induction ranked generalizing limit with
    | nil => rfl
    | cons first rest ih =>
      have ⟨fresh, restDistinct⟩ := List.nodup_cons.mp distinct
      rw [List.take_succ_cons]
      by_cases same : first = project
      · subst same
        have absent : ∀ other ∈ rest, decide (other ≠ first) = true := by
          intro other member
          exact decide_eq_true fun equal => fresh (equal ▸ member)
        have absentTaken : ∀ other ∈ rest.take limit, decide (other ≠ first) = true :=
          fun other member => absent other (List.mem_of_mem_take member)
        rw [List.filter_cons_of_neg (by simp), List.filter_cons_of_neg (by simp),
          List.filter_eq_self.mpr absent, List.filter_eq_self.mpr absentTaken, List.take_take,
          Nat.min_self]
      · have kept : ∀ others, ((first :: others).filter fun other => other ≠ project) =
            first :: others.filter fun other => other ≠ project :=
          fun others => List.filter_cons_of_pos (decide_eq_true same)
        rw [kept, kept]
        cases limit with
        | zero => rfl
        | succ limit => rw [List.take_succ_cons, List.take_succ_cons, ih restDistinct limit]

/-- What a store and the course that has led to it have to do with each other. -/
structure Follows (store : ProjectStore α) (used : List String) (actions : List (Action α)) :
    Prop where
  projects_eq : store.projects = (byRecency used).take store.limit
  mem_used_iff : ∀ project, project ∈ used ↔ ∃ value, Action.add project value ∈ actions
  lastAdded : ∀ entry ∈ store.entries, lastAdded? actions entry.project = some entry.value

namespace Follows

variable {store : ProjectStore α} {used : List String} {actions : List (Action α)}

theorem length_projects_le (follows : store.Follows used actions) :
    store.projects.length ≤ store.limit := by
  rw [follows.projects_eq]
  exact List.length_take_le _ _

theorem mem_used_of_mem_projects (follows : store.Follows used actions) {project : String}
    (held : project ∈ store.projects) : project ∈ used := by
  rw [follows.projects_eq] at held
  exact (mem_byRecency used project).mp (List.mem_of_mem_take held)

theorem projects_after (follows : store.Follows used actions) (fresh : store.Unexpired)
    (action : Action α) : (store.after action).projects =
      (byRecency (used ++ (store.used? action).toList)).take store.limit := by
  cases found : store.used? action with
  | none =>
    rw [store.projects_unused fresh action found, Option.toList_none, List.append_nil]
    exact follows.projects_eq
  | some project =>
    rw [store.projects_used fresh follows.length_projects_le action project found,
      Option.toList_some, byRecency_concat, follows.projects_eq,
      take_cons_filter_take project _ _ (nodup_byRecency used)]

/-- A project that is found has been added before. -/
theorem mem_used_after (follows : store.Follows used actions) (action : Action α)
    (project : String) : project ∈ used ++ (store.used? action).toList ↔
      ∃ value, Action.add project value ∈ actions ++ [action] := by
  rw [List.mem_append, follows.mem_used_iff]
  cases action with
  | add added value => simp [used?, exists_or, eq_comm]
  | get wanted =>
    have known : project ∈ (store.used? (.get wanted)).toList →
        ∃ value, Action.add project value ∈ actions := by
      intro member
      by_cases held : wanted ∈ store.projects
      · obtain rfl : project = wanted := by
          simp only [used?, Option.mem_toList] at member
          split at member
          · exact (Option.some.inj member).symm
          · cases member
        exact (follows.mem_used_iff project).mp (follows.mem_used_of_mem_projects held)
      · simp [used?, store.get_of_not_mem held] at member
    simpa using known
  | wait seconds => simp [used?]

theorem lastAdded_after (follows : store.Follows used actions) (action : Action α)
    (entry : Entry α) (member : entry ∈ (store.after action).entries) :
    lastAdded? (actions ++ [action]) entry.project = some entry.value := by
  rw [lastAdded?_concat]
  rcases store.mem_entries_after action entry member with ⟨value, rfl, same⟩ | ⟨known, other⟩
  · simp [same]
  · cases action with
    | add added value =>
      have differs : added ≠ entry.project := by
        rintro rfl
        exact other value rfl
      rw [← follows.lastAdded entry known]
      exact if_neg differs
    | get wanted => exact follows.lastAdded entry known
    | wait seconds => exact follows.lastAdded entry known

theorem step (follows : store.Follows used actions) (fresh : store.Unexpired)
    (action : Action α) :
    (store.after action).Follows (used ++ (store.used? action).toList) (actions ++ [action]) where
  projects_eq := by
    rw [(store.settings_after action).1, follows.projects_after fresh action]
  mem_used_iff := follows.mem_used_after action
  lastAdded := follows.lastAdded_after action

end Follows

section Run

variable (store : ProjectStore α) (actions : List (Action α))

theorem settings_run :
    (store.run actions).limit = store.limit ∧ (store.run actions).ttl = store.ttl := by
  induction actions generalizing store with
  | nil => exact ⟨rfl, rfl⟩
  | cons action rest ih =>
    have ⟨limit, ttl⟩ := store.settings_after action
    have ⟨laterLimit, laterTtl⟩ := ih (store.after action)
    exact ⟨laterLimit.trans limit, laterTtl.trans ttl⟩

variable {store actions}

/-- By induction on the course from its end: what came before is a course in which nothing expires
either. -/
theorem follows_run (empty : store.entries = []) (lasting : store.NothingExpires actions) :
    (store.run actions).Follows (store.uses actions) actions := by
  induction actions using List.reverseRecOn with
  | nil =>
    have nothing : (store.run []).entries = [] := empty
    refine ⟨?_, ?_, ?_⟩
    · simp [projects, nothing, uses, byRecency]
    · simp [uses]
    · simp [nothing]
  | append_singleton actions action ih =>
    have earlier : store.NothingExpires actions :=
      fun before first => lasting before (first.trans (List.prefix_append _ _))
    rw [run_concat, uses_concat]
    exact (ih earlier).step (lasting actions (List.prefix_append _ _)) action

end Run

section Expiry

variable {store : ProjectStore α}

/-- What a store is like however much of it expires. -/
structure Bounded (store : ProjectStore α) : Prop where
  nodup : store.projects.Nodup
  size_le : store.size ≤ store.limit

theorem size_eq_length_projects (store : ProjectStore α) : store.size = store.projects.length :=
  (List.length_map _).symm

theorem Bounded.add (bounded : store.Bounded) (project : String) (value : α) :
    (store.add project value).Bounded where
  nodup := by
    rw [projects_add]
    have apart : project ∉ store.projects.filter fun other => other ≠ project := by simp
    have distinct := List.nodup_cons.mpr ⟨apart, bounded.nodup.filter _⟩
    exact distinct.sublist (List.take_sublist _ _)
  size_le := store.size_add_le project value

theorem projects_get_of_mem {project : String} (held : project ∈ store.projects) :
    (store.get project).2.projects = store.projects.filter (fun other => other ≠ project) ∨
      (store.get project).2.projects =
        project :: store.projects.filter fun other => other ≠ project := by
  obtain ⟨entry, -, same, found⟩ := store.exists_find?_of_mem held
  rw [← projects_without, get, found]
  dsimp only
  split
  · right
    rw [projects, List.map_cons, same]
  · exact .inl rfl

theorem Bounded.get (bounded : store.Bounded) (project : String) :
    (store.get project).2.Bounded := by
  have same : (store.get project).2.limit = store.limit := (store.settings_after (.get project)).1
  by_cases held : project ∈ store.projects
  · have fewer := store.length_filter_ne_lt held
    have distinct := bounded.nodup.filter fun other => other ≠ project
    have short := bounded.size_le
    rw [size_eq_length_projects] at short
    rcases projects_get_of_mem held with dropped | moved
    · refine ⟨dropped ▸ distinct, ?_⟩
      rw [size_eq_length_projects, dropped, same]
      omega
    · refine ⟨?_, ?_⟩
      · rw [moved, List.nodup_cons]
        exact ⟨by simp, distinct⟩
      · rw [size_eq_length_projects, moved, List.length_cons, same]
        omega
  · rw [store.get_of_not_mem held]
    exact bounded

theorem Bounded.run (bounded : store.Bounded) (actions : List (Action α)) :
    (store.run actions).Bounded := by
  induction actions generalizing store with
  | nil => exact bounded
  | cons action rest ih =>
    cases action with
    | add project value => exact ih (bounded.add project value)
    | get project => exact ih (bounded.get project)
    | wait seconds => exact ih ⟨bounded.nodup, bounded.size_le⟩

/-- Where entries are too old as soon as they are added, a look-up does no more than remove. -/
theorem get_of_ttl_zero (immediate : store.ttl = 0) (project : String) :
    store.get project = (none, { store with entries := store.without project }) := by
  by_cases held : project ∈ store.projects
  · obtain ⟨entry, -, -, found⟩ := store.exists_find?_of_mem held
    have old : store.isFresh entry = false := by simp [isFresh, immediate]
    rw [get, found]
    simp only [old, Bool.false_eq_true, if_false]
  · rw [store.get_of_not_mem held, store.without_of_not_mem held]

theorem find?_without {project other : String} (differs : other ≠ project) :
    (store.without project).find? (fun entry => entry.project = other) = store.find? other := by
  rw [without, List.find?_filter, find?]
  congr 1
  funext entry
  rw [Bool.eq_iff_iff]
  simp only [decide_eq_true_eq]
  exact ⟨And.right, fun same => ⟨same ▸ differs, same⟩⟩

/-- What is not displaced by an addition stays as it was. -/
theorem find?_add_of_mem {project other : String} {value : α} (differs : other ≠ project)
    (held : other ∈ (store.add project value).projects) :
    (store.add project value).find? other = store.find? other := by
  obtain ⟨entry, -, -, found⟩ := (store.add project value).exists_find?_of_mem held
  have among := (List.take_prefix _ _).find?_eq_some found
  have skipped : decide (project = other) = false := decide_eq_false (Ne.symm differs)
  rw [List.find?_cons] at among
  simp only [skipped] at among
  rw [found, ← find?_without differs, among]

end Expiry

section Main

variable (start : ProjectStore α) (actions : List (Action α))

/-- A store that starts empty is, as long as nothing expires, the front of the list of all projects
ever added, latest use first, where to find a project is a use of it as well. A look-up gives what
was added last, and if there is nothing to give, it changes nothing.

The rest holds whatever expires. The store never exceeds its capacity; an addition puts its project
in front and alters no other that remains; and where everything expires at once, a look-up gives
nothing, and removes the entry of its project if there is one. -/
theorem run_keeps_most_recently_used (empty : start.entries = []) :
    (start.NothingExpires actions →
      (start.run actions).projects =
          (byRecency (start.uses actions)).take (max start.capacity 1) ∧
        (byRecency (start.uses actions)).Nodup ∧
        (∀ project, project ∈ byRecency (start.uses actions) ↔
          ∃ value, Action.add project value ∈ actions) ∧
        ∀ project,
          (project ∈ (start.run actions).projects → ∃ value,
            ((start.run actions).get project).1 = some value ∧
              lastAdded? actions project = some value) ∧
          (project ∉ (start.run actions).projects →
            (start.run actions).get project = (none, start.run actions))) ∧
    ((start.run actions).projects.Nodup ∧
      (start.run actions).size = (start.run actions).projects.length ∧
      (start.run actions).size ≤ max start.capacity 1) ∧
    (∀ project value,
      ((start.run actions).add project value).projects =
          (project :: (start.run actions).projects.filter fun other => other ≠ project).take
            (max start.capacity 1) ∧
        ((start.run actions).add project value).find? project =
          some ⟨project, (start.run actions).now, value⟩ ∧
        ∀ other ≠ project, other ∈ ((start.run actions).add project value).projects →
          ((start.run actions).add project value).find? other =
            (start.run actions).find? other) ∧
    (start.ttl = 0 → ∀ project, (start.run actions).get project =
      (none, { start.run actions with
        entries := (start.run actions).entries.filter fun entry => entry.project ≠ project })) := by
  have limit : (start.run actions).limit = max start.capacity 1 := (start.settings_run actions).1
  have bounded : (start.run actions).Bounded :=
    Bounded.run ⟨by simp [projects, empty], by simp [size, empty]⟩ actions
  refine ⟨?_, ?_, ?_, ?_⟩
  · intro lasting
    have follows := follows_run empty lasting
    refine ⟨?_, nodup_byRecency _, ?_, ?_⟩
    · rw [follows.projects_eq, limit]
    · intro project
      rw [mem_byRecency, follows.mem_used_iff]
    · intro project
      refine ⟨?_, (start.run actions).get_of_not_mem⟩
      intro held
      have fresh := lasting actions (List.prefix_refl actions)
      obtain ⟨entry, member, rfl, answer⟩ := (start.run actions).exists_get_of_mem fresh held
      exact ⟨entry.value, by rw [answer], follows.lastAdded entry member⟩
  · refine ⟨bounded.nodup, size_eq_length_projects _, ?_⟩
    rw [← limit]
    exact bounded.size_le
  · intro project value
    refine ⟨?_, find?_add _ project value, fun other differs held => find?_add_of_mem differs held⟩
    rw [projects_add, limit]
  · intro immediate project
    exact get_of_ttl_zero ((start.settings_run actions).2.trans immediate) project

end Main

/-- The oldest of three projects is the one that is used last when the third is added: it stays,
and the other one makes room. A store in which everything expires at once is still filled. -/
theorem busy_project_displaces_idle_one :
    ((ProjectStore.run { capacity := 2, ttl := 300 } [.add "cold" 1, .wait 200, .add "warm" 2,
        .get "cold", .add "hot" 3] : ProjectStore Nat).projects = ["hot", "cold"]) ∧
      (ProjectStore.run { capacity := 2, ttl := 0 } [.add "cold" 1, .get "warm", .add "hot" 3] :
        ProjectStore Nat).get "hot" =
          (none, { capacity := 2, ttl := 0, entries := [⟨"cold", 0, 1⟩] }) := by
  have lasting : NothingExpires (α := Nat) { capacity := 2, ttl := 300 }
      [.add "cold" 1, .wait 200, .add "warm" 2, .get "cold", .add "hot" 3] := by
    decide
  have ⟨held, _⟩ := (run_keeps_most_recently_used _ _ rfl).1 lasting
  have removed := (run_keeps_most_recently_used
    (α := Nat) { capacity := 2, ttl := 0 } [.add "cold" 1, .get "warm", .add "hot" 3] rfl).2.2.2 rfl
  exact ⟨held.trans (by decide), (removed "hot").trans (by decide)⟩

end ProjectStore

end ContainerStreams
