import ContainerStreams.Time.Date

set_option autoImplicit false

namespace ContainerStreams

namespace Instant

def firstYear : Int := -262143
def lastYear : Int := 262142

/-- A day has 1440 minutes, and a minute may end with a leap second, its sixtieth. -/
def isValid (date : Date) (minute second nanosecond : Nat) : Bool :=
  date.isValid && firstYear ≤ date.year && date.year ≤ lastYear && minute < 1440 &&
    second ≤ 60 && nanosecond < 1000000000

end Instant

/-- A point in time in UTC. The minute is counted from the beginning of the day. -/
structure Instant where
  date : Date
  minute : Nat
  second : Nat
  nanosecond : Nat
  valid : Instant.isValid date minute second nanosecond = true
  deriving DecidableEq, Repr

namespace Instant

def ofParts? (date : Date) (minute second nanosecond : Nat) : Option Instant :=
  if valid : isValid date minute second nanosecond = true then
    some ⟨date, minute, second, nanosecond, valid⟩
  else none

def parts (instant : Instant) : List Int :=
  [instant.date.year, instant.date.month, instant.date.day, instant.minute, instant.second,
   instant.nanosecond]

/-- Of two instants the one whose first differing part is less is the earlier. -/
instance : LT Instant := ⟨fun a b => a.parts < b.parts⟩
instance (a b : Instant) : Decidable (a < b) := inferInstanceAs (Decidable (a.parts < b.parts))

theorem eq_of_parts_eq {a b : Instant} (same : a.parts = b.parts) : a = b := by
  obtain ⟨⟨_, _, _⟩, _, _, _, _⟩ := a
  obtain ⟨⟨_, _, _⟩, _, _, _, _⟩ := b
  simp only [parts, List.cons.injEq, Int.natCast_inj, and_true] at same
  obtain ⟨rfl, rfl, rfl, rfl, rfl, rfl⟩ := same
  rfl

theorem lt_trans {a b c : Instant} (early : a < b) (late : b < c) : a < c :=
  List.lt_trans early late

theorem lt_irrefl (a : Instant) : ¬ a < a :=
  List.lt_irrefl a.parts

theorem not_lt_of_lt {a b : Instant} (before : a < b) : ¬ b < a :=
  fun after => lt_irrefl a (lt_trans before after)

theorem eq_of_not_lt {a b : Instant} (notBefore : ¬ a < b) (notAfter : ¬ b < a) : a = b :=
  eq_of_parts_eq (List.le_antisymm notAfter notBefore)

theorem lt_of_not_lt_of_lt {a b c : Instant} (notAfter : ¬ b < a) (before : b < c) : a < c :=
  List.lt_of_le_of_lt notAfter before

/-- The day and minute that lie by less than a day before or after a minute of the given day. -/
def shifted (date : Date) (minute : Nat) (change : Int) : Date × Nat :=
  let total := (minute : Int) + change
  if total < 0 then (date.previous, (total + 1440).toNat)
  else if 1440 ≤ total then (date.next, (total - 1440).toNat)
  else (date, total.toNat)

theorem isValid_shifted (date : Date) (minute : Nat) (change : Int) (valid : date.isValid = true)
    (inside : minute < 1440) (short : -1440 < change ∧ change < 1440) :
    (shifted date minute change).1.isValid = true ∧ (shifted date minute change).2 < 1440 := by
  unfold shifted
  simp only
  split
  · exact ⟨Date.isValid_previous _ valid, by simp only; omega⟩
  · split
    · exact ⟨Date.isValid_next _ valid, by simp only; omega⟩
    · exact ⟨valid, by simp only; omega⟩

/-- The same instant as the given local time, which is ahead of UTC by `offset` minutes. -/
def ofLocal? (date : Date) (minute second nanosecond : Nat) (offset : Int) : Option Instant :=
  if isValid date minute second nanosecond then
    let (date, minute) := shifted date minute (-offset)
    ofParts? date minute second nanosecond
  else none

end Instant

end ContainerStreams
