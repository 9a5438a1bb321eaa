/-!
Maps from text to values, held as a list of entries with strictly ascending keys. The order makes
the list unique, so equal maps are equal values and are always written the same way. Main
statement: looking a key up after an insertion.
-/

set_option autoImplicit false

namespace ContainerStreams

structure SortedMap (α : Type) where
  entries : List (String × α)
  ascending : entries.Pairwise (fun earlier later => earlier.1 < later.1)
  deriving DecidableEq, Repr

namespace SortedMap

variable {α : Type}

def empty : SortedMap α := ⟨[], .nil⟩

instance : EmptyCollection (SortedMap α) := ⟨empty⟩
instance : Inhabited (SortedMap α) := ⟨empty⟩

def isEmpty (map : SortedMap α) : Bool := map.entries.isEmpty
def keys (map : SortedMap α) : List String := map.entries.map (·.1)
def values (map : SortedMap α) : List α := map.entries.map (·.2)
def get? (map : SortedMap α) (key : String) : Option α := map.entries.lookup key
def contains (map : SortedMap α) (key : String) : Bool := (map.get? key).isSome

/-- Puts an entry at its place, instead of the entry of the same key if there is one. -/
def insertEntry (key : String) (value : α) : List (String × α) → List (String × α)
  | [] => [(key, value)]
  | entry :: rest =>
    if key < entry.1 then (key, value) :: entry :: rest
    else if entry.1 < key then entry :: insertEntry key value rest
    else (key, value) :: rest

theorem mem_insertEntry {key : String} {value : α} {entries : List (String × α)}
    {entry : String × α} (member : entry ∈ insertEntry key value entries) :
    entry = (key, value) ∨ entry ∈ entries := by
  induction entries with
  | nil => simpa [insertEntry] using member
  | cons first rest ih =>
    unfold insertEntry at member
    split at member
    · simpa using member
    · split at member
      · rcases List.mem_cons.mp member with same | later
        · exact Or.inr (by simp [same])
        · exact (ih later).imp id (List.mem_cons_of_mem _)
      · rcases List.mem_cons.mp member with same | later
        · exact Or.inl same
        · exact Or.inr (List.mem_cons_of_mem _ later)

theorem eq_of_not_lt {a b : String} (notBefore : ¬ a < b) (notAfter : ¬ b < a) : a = b :=
  String.le_antisymm notAfter notBefore

theorem ascending_insertEntry (key : String) (value : α) (entries : List (String × α))
    (ascending : entries.Pairwise (fun earlier later => earlier.1 < later.1)) :
    (insertEntry key value entries).Pairwise (fun earlier later => earlier.1 < later.1) := by
  induction entries with
  | nil => simp [insertEntry]
  | cons first rest ih =>
    have ⟨below, restAscending⟩ := List.pairwise_cons.mp ascending
    unfold insertEntry
    split
    · rename_i before
      refine List.pairwise_cons.mpr ⟨fun entry member => ?_, ascending⟩
      rcases List.mem_cons.mp member with rfl | later
      · exact before
      · exact String.lt_trans before (below entry later)
    · split
      · rename_i after
        refine List.pairwise_cons.mpr ⟨fun entry member => ?_, ih restAscending⟩
        rcases mem_insertEntry member with rfl | later
        · exact after
        · exact below entry later
      · rename_i notBefore notAfter
        have same := eq_of_not_lt notBefore notAfter
        refine List.pairwise_cons.mpr ⟨fun entry member => ?_, restAscending⟩
        rw [same]
        exact below entry member

def insert (map : SortedMap α) (key : String) (value : α) : SortedMap α :=
  ⟨insertEntry key value map.entries, ascending_insertEntry key value _ map.ascending⟩

def erase (map : SortedMap α) (key : String) : SortedMap α :=
  ⟨map.entries.filter (fun entry => entry.1 ≠ key), map.ascending.filter _⟩

/-- The map of a list of entries. Of several entries with one key the last one counts. -/
def ofList (entries : List (String × α)) : SortedMap α :=
  entries.foldl (fun map entry => map.insert entry.1 entry.2) empty

def map {β : Type} (change : α → β) (map : SortedMap α) : SortedMap β :=
  ⟨map.entries.map fun entry => (entry.1, change entry.2), List.pairwise_map.mpr map.ascending⟩

/-- Applies changes in order: a value is put under its key, the lack of one removes the key. -/
def patch (map : SortedMap α) (changes : List (String × Option α)) : SortedMap α :=
  changes.foldl (fun map change =>
    match change.2 with
    | some value => map.insert change.1 value
    | none => map.erase change.1) map

theorem lookup_insertEntry (key : String) (value : α) (entries : List (String × α))
    (wanted : String) :
    (insertEntry key value entries).lookup wanted =
      if wanted = key then some value else entries.lookup wanted := by
  induction entries with
  | nil =>
    by_cases same : wanted = key
    · simp [insertEntry, same]
    · simp [insertEntry, List.lookup_cons, beq_false_of_ne same, same]
  | cons first rest ih =>
    obtain ⟨k, v⟩ := first
    by_cases same : wanted = key
    · subst same
      simp only [↓reduceIte] at ih ⊢
      unfold insertEntry
      split
      · simp
      · split
        · rename_i after
          have different : wanted ≠ k := fun equal => String.lt_irrefl k (equal ▸ after)
          simp [List.lookup_cons, beq_false_of_ne different, ih]
        · simp
    · simp only [same, ↓reduceIte] at ih ⊢
      unfold insertEntry
      split
      · simp [List.lookup_cons, beq_false_of_ne same]
      · split
        · simp only [List.lookup_cons, ih]
        · rename_i notBefore notAfter
          have equal : key = k := eq_of_not_lt notBefore notAfter
          subst equal
          simp [List.lookup_cons, beq_false_of_ne same]

@[simp] theorem get?_insert (map : SortedMap α) (key : String) (value : α) (wanted : String) :
    (map.insert key value).get? wanted = if wanted = key then some value else map.get? wanted :=
  lookup_insertEntry key value map.entries wanted

@[simp] theorem get?_empty (key : String) : (empty : SortedMap α).get? key = none := rfl

@[simp] theorem get?_map {β : Type} (change : α → β) (map : SortedMap α) (key : String) :
    (map.map change).get? key = (map.get? key).map change := by
  change (map.entries.map fun entry => (entry.1, change entry.2)).lookup key =
    (map.entries.lookup key).map change
  induction map.entries with
  | nil => rfl
  | cons entry rest ih =>
    rw [List.map_cons, List.lookup_cons, List.lookup_cons, ih]
    cases key == entry.1 <;> rfl

theorem mem_keys (map : SortedMap α) (key : String) : key ∈ map.keys ↔ map.contains key = true := by
  unfold contains get? keys
  rw [List.lookup_isSome_iff, List.mem_map]
  constructor
  · intro listed
    obtain ⟨entry, member, rfl⟩ := listed
    exact ⟨entry, member, beq_self_eq_true _⟩
  · intro found
    obtain ⟨entry, member, same⟩ := found
    exact ⟨entry, member, (eq_of_beq same).symm⟩

theorem get?_foldl_insert (entries : List (String × α)) (map : SortedMap α) (key : String) :
    (entries.foldl (fun map entry => map.insert entry.1 entry.2) map).get? key =
      ((entries.filter (·.1 = key)).getLast?.map (·.2)).or (map.get? key) := by
  induction entries generalizing map with
  | nil => rfl
  | cons entry rest ih =>
    rw [List.foldl_cons, ih, get?_insert]
    by_cases same : entry.1 = key
    · rw [if_pos same.symm, List.filter_cons_of_pos (by simpa using same), List.getLast?_cons]
      cases (rest.filter (·.1 = key)).getLast? <;> rfl
    · rw [if_neg (Ne.symm same), List.filter_cons_of_neg (by simpa using same)]

theorem get?_ofList (entries : List (String × α)) (key : String) :
    (ofList entries).get? key = (entries.filter (·.1 = key)).getLast?.map (·.2) := by
  rw [ofList, get?_foldl_insert, get?_empty, Option.or_none]

theorem mem_of_get?_ofList {entries : List (String × α)} {key : String} {value : α}
    (found : (ofList entries).get? key = some value) : (key, value) ∈ entries := by
  rw [get?_ofList] at found
  obtain ⟨entry, last, rfl⟩ := Option.map_eq_some_iff.mp found
  have listed := List.mem_filter.mp (List.mem_of_getLast? last)
  rw [← of_decide_eq_true listed.2]
  exact listed.1

theorem mem_keys_ofList (entries : List (String × α)) (key : String) :
    key ∈ (ofList entries).keys ↔ ∃ entry ∈ entries, entry.1 = key := by
  rw [mem_keys, contains, get?_ofList, Option.isSome_map, ← Option.ne_none_iff_isSome, ne_eq,
    List.getLast?_eq_none_iff, List.filter_eq_nil_iff]
  simp

theorem insertEntry_of_forall_lt {key : String} (value : α) {entries : List (String × α)}
    (below : ∀ entry ∈ entries, entry.1 < key) :
    insertEntry key value entries = entries ++ [(key, value)] := by
  induction entries with
  | nil => rfl
  | cons first rest ih =>
    have before : first.1 < key := below first (by simp)
    rw [insertEntry, if_neg (String.lt_asymm before), if_pos before,
      ih fun entry member => below entry (List.mem_cons_of_mem _ member), List.cons_append]

theorem entries_foldl_insert (later : List (String × α)) (map : SortedMap α)
    (ascending : (map.entries ++ later).Pairwise (fun earlier later => earlier.1 < later.1)) :
    (later.foldl (fun map entry => map.insert entry.1 entry.2) map).entries =
      map.entries ++ later := by
  induction later generalizing map with
  | nil => exact (List.append_nil _).symm
  | cons entry later ih =>
    have below : ∀ earlier ∈ map.entries, earlier.1 < entry.1 := fun earlier member =>
      (List.pairwise_append.mp ascending).2.2 earlier member entry (by simp)
    have inserted : (map.insert entry.1 entry.2).entries = map.entries ++ [entry] :=
      insertEntry_of_forall_lt entry.2 below
    have split : map.entries ++ entry :: later = (map.insert entry.1 entry.2).entries ++ later := by
      rw [inserted, List.append_assoc, List.singleton_append]
    rw [List.foldl_cons, ih _ (split ▸ ascending), split]

theorem ofList_entries (map : SortedMap α) : ofList map.entries = map := by
  have same := entries_foldl_insert map.entries empty map.ascending
  obtain ⟨entries, ascending⟩ := map
  exact (mk.injEq ..).mpr same

theorem mem_entries_iff (map : SortedMap α) (key : String) (value : α) :
    (key, value) ∈ map.entries ↔ map.get? key = some value := by
  obtain ⟨entries, ascending⟩ := map
  change (key, value) ∈ entries ↔ entries.lookup key = some value
  induction entries with
  | nil => simp
  | cons first rest ih =>
    obtain ⟨k, v⟩ := first
    have ⟨below, restAscending⟩ := List.pairwise_cons.mp ascending
    by_cases same : key = k
    · subst same
      have notLater : (key, value) ∉ rest := fun later =>
        String.lt_irrefl key (below (key, value) later)
      simp [notLater, eq_comm]
    · simp [List.lookup_cons, beq_false_of_ne same, same, ih restAscending]

end SortedMap

end ContainerStreams
