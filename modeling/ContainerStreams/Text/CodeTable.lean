set_option autoImplicit false

namespace ContainerStreams.Text

/-- The first and the last code point of each range. -/
abbrev CodeTable := List (Nat × Nat)

namespace CodeTable

def ascending (start : Nat) : CodeTable → Bool
  | [] => true
  | (low, high) :: rest => start ≤ low && low ≤ high && ascending (high + 1) rest

/-- The first range that does not end before the code point decides. -/
def contains (table : CodeTable) (code : Nat) : Bool :=
  match table with
  | [] => false
  | (low, high) :: rest => if code ≤ high then low ≤ code else contains rest code

theorem le_of_ascending {start : Nat} {table : CodeTable}
    (ordered : table.ascending start = true) : ∀ range ∈ table, start ≤ range.1 := by
  induction table generalizing start with
  | nil => simp
  | cons first rest ih =>
    simp only [ascending, Bool.and_eq_true, decide_eq_true_eq] at ordered
    intro range member
    rcases List.mem_cons.1 member with rfl | later
    · exact ordered.1.1
    · have := ih ordered.2 range later
      omega

theorem contains_iff {start : Nat} {table : CodeTable} (ordered : table.ascending start = true)
    (code : Nat) :
    table.contains code = true ↔ ∃ range ∈ table, range.1 ≤ code ∧ code ≤ range.2 := by
  induction table generalizing start with
  | nil => simp [contains]
  | cons first rest ih =>
    simp only [ascending, Bool.and_eq_true, decide_eq_true_eq] at ordered
    by_cases near : code ≤ first.2
    · have later : ¬∃ range ∈ rest, range.1 ≤ code ∧ code ≤ range.2 := by
        rintro ⟨range, member, low, _⟩
        have := le_of_ascending ordered.2 range member
        omega
      simp only [contains, near, ↓reduceIte, decide_eq_true_eq, List.mem_cons, or_and_right,
        exists_or, exists_eq_left, and_true, later, or_false]
    · simp [contains, near, ih ordered.2]

end CodeTable

end ContainerStreams.Text
