/-!
Stores of one object for each project, which outlive requests and are shared between them. The
store in memory forgets what is too old, and, when it is full, what has not been used for longest.
-/

set_option autoImplicit false

namespace ContainerStreams

structure ProjectStore.Entry (α : Type) where
  project : String
  added : Nat
  value : α
  deriving DecidableEq

/-- The entries stand in the order of their last use, latest first. Times are seconds; `now` is
the time at which the store is used. -/
structure ProjectStore (α : Type) where
  capacity : Nat
  ttl : Nat
  now : Nat := 0
  entries : List (ProjectStore.Entry α) := []
  deriving DecidableEq

namespace ProjectStore

variable {α : Type}

def size (store : ProjectStore α) : Nat := store.entries.length

def isEmpty (store : ProjectStore α) : Bool := store.size = 0

/-- A store without any capacity would be of no use, so it keeps one object nevertheless. -/
def limit (store : ProjectStore α) : Nat := max store.capacity 1

def find? (store : ProjectStore α) (project : String) : Option (Entry α) :=
  store.entries.find? fun entry => entry.project = project

def isFresh (store : ProjectStore α) (entry : Entry α) : Bool :=
  store.now - entry.added < store.ttl

def without (store : ProjectStore α) (project : String) : List (Entry α) :=
  store.entries.filter fun entry => entry.project ≠ project

def add (store : ProjectStore α) (project : String) (value : α) : ProjectStore α :=
  let entry := { project, added := store.now, value }
  { store with entries := (entry :: store.without project).take store.limit }

/-- The object kept for a project, which is thereby used. An entry that is too old is removed. -/
def get (store : ProjectStore α) (project : String) : Option α × ProjectStore α :=
  match store.find? project with
  | none => (none, store)
  | some entry =>
    if store.isFresh entry then
      (some entry.value, { store with entries := entry :: store.without project })
    else (none, { store with entries := store.without project })

theorem size_add_le (store : ProjectStore α) (project : String) (value : α) :
    (store.add project value).size ≤ store.limit := by
  simp only [add, size, List.length_take]
  exact Nat.min_le_left _ _

theorem find?_add (store : ProjectStore α) (project : String) (value : α) :
    (store.add project value).find? project = some ⟨project, store.now, value⟩ := by
  have positive : 1 ≤ store.limit := Nat.le_max_right _ _
  obtain ⟨n, same⟩ : ∃ n, store.limit = n + 1 := ⟨store.limit - 1, by omega⟩
  simp [add, find?, same]

def later (store : ProjectStore α) (seconds : Nat) : ProjectStore α :=
  { store with now := store.now + seconds }

end ProjectStore

end ContainerStreams
