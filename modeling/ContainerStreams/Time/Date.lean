set_option autoImplicit false

namespace ContainerStreams

/-- The year zero is the one before the year one. -/
structure Date where
  year : Int
  month : Nat
  day : Nat
  deriving DecidableEq, Repr

namespace Date

def isLeapYear (year : Int) : Bool :=
  year % 4 = 0 && (year % 100 ≠ 0 || year % 400 = 0)

def daysInMonth (year : Int) (month : Nat) : Nat :=
  if month = 2 then (if isLeapYear year then 29 else 28)
  else if month = 4 || month = 6 || month = 9 || month = 11 then 30
  else 31

def isValid (date : Date) : Bool :=
  1 ≤ date.month && date.month ≤ 12 && 1 ≤ date.day && date.day ≤ daysInMonth date.year date.month

def next (date : Date) : Date :=
  if date.day < daysInMonth date.year date.month then { date with day := date.day + 1 }
  else if date.month < 12 then { date with month := date.month + 1, day := 1 }
  else { year := date.year + 1, month := 1, day := 1 }

def previous (date : Date) : Date :=
  if 1 < date.day then { date with day := date.day - 1 }
  else if 1 < date.month then
    { date with month := date.month - 1, day := daysInMonth date.year (date.month - 1) }
  else { year := date.year - 1, month := 12, day := 31 }

theorem daysInMonth_pos (year : Int) (month : Nat) : 1 ≤ daysInMonth year month := by
  unfold daysInMonth
  split
  · split <;> decide
  · split <;> decide

theorem isValid_next (date : Date) (valid : date.isValid = true) : date.next.isValid = true := by
  simp only [isValid, Bool.and_eq_true, decide_eq_true_eq] at valid ⊢
  unfold next
  split
  · simp only
    omega
  · split
    · simp only
      have := daysInMonth_pos date.year (date.month + 1)
      omega
    · exact ⟨⟨⟨by simp, by simp⟩, by simp⟩, daysInMonth_pos _ _⟩

theorem isValid_previous (date : Date) (valid : date.isValid = true) :
    date.previous.isValid = true := by
  simp only [isValid, Bool.and_eq_true, decide_eq_true_eq] at valid ⊢
  unfold previous
  split
  · simp only
    omega
  · split
    · simp only
      have := daysInMonth_pos date.year (date.month - 1)
      omega
    · simp [daysInMonth]

end Date

end ContainerStreams
