import ContainerStreams.Time.Rfc3339
import Mathlib.Algebra.Group.Nat.Defs

set_option autoImplicit false

namespace ContainerStreams

namespace Text

theorem length_paddedDecimal {width n : Nat} (positive : 0 < width) (fits : n < 10 ^ width) :
    (paddedDecimal width n).length = width := by
  have short : (decimal n).length ≤ width :=
    (Nat.length_toDigits_le_iff (by decide) positive).mpr fits
  rw [paddedDecimal, List.length_append, List.length_replicate]
  omega

theorem decimalValue_append_zeros (digits : List Char) (count : Nat) :
    decimalValue (digits ++ List.replicate count '0') = 10 ^ count * decimalValue digits := by
  rw [decimalValue, Nat.ofDigitChars_append, Nat.ofDigitChars_replicate_zero]
  rfl

end Text

namespace Rfc3339

open Text

theorem isBlank_of_isDigit (c : Char) (digit : c.isDigit = true) : isBlank c = false := by
  have table : ∀ code < 58, 48 ≤ code → blankTable.contains code = false := by
    decide
  simp only [Char.isDigit, Bool.and_eq_true, decide_eq_true_eq, ge_iff_le, UInt32.le_iff_toNat_le]
    at digit
  change 48 ≤ c.toNat ∧ c.toNat ≤ 57 at digit
  exact table c.toNat (by omega) digit.1

theorem exists_paddedDecimal_eq_cons (width n : Nat) :
    ∃ c digits, paddedDecimal width n = c :: digits ∧ c.isDigit = true := by
  have nonempty : paddedDecimal width n ≠ [] := by
    simp [paddedDecimal, decimal_ne_nil]
  obtain ⟨c, digits, front⟩ := List.exists_cons_of_ne_nil nonempty
  have first : c ∈ paddedDecimal width n := by simp [front]
  exact ⟨c, digits, front, isDigit_of_mem_paddedDecimal first⟩

theorem skipBlanks_paddedDecimal (width n : Nat) (rest : List Char) :
    skipBlanks (paddedDecimal width n ++ rest) = paddedDecimal width n ++ rest := by
  obtain ⟨c, digits, front, digit⟩ := exists_paddedDecimal_eq_cons width n
  rw [front, List.cons_append, skipBlanks_cons c _ (isBlank_of_isDigit c digit)]

section Fields

variable {rest : List Char} (ends : ∀ c ∈ rest.head?, c.isDigit = false)
include ends

theorem takeNumber?_paddedDecimal {width n : Nat} (limit : Nat)
    (fits : (paddedDecimal width n).length ≤ limit) :
    takeNumber? limit (paddedDecimal width n ++ rest) = some (n, rest) := by
  have all : ∀ c ∈ paddedDecimal width n, c.isDigit = true := fun c =>
    isDigit_of_mem_paddedDecimal
  have stop : ∀ c ∈ (rest.take (limit - (paddedDecimal width n).length)).head?,
      c.isDigit = false := by
    intro c first
    rw [List.head?_take] at first
    split at first
    · cases first
    · exact ends c first
  have taken : ((paddedDecimal width n ++ rest).take limit).takeWhile Char.isDigit =
      paddedDecimal width n := by
    rw [List.take_append, List.take_of_length_le fits]
    exact (takeWhile_append_of_head? all stop).1
  have nonempty : paddedDecimal width n ≠ [] := by
    simp [paddedDecimal, decimal_ne_nil]
  rw [takeNumber?, taken, if_neg (by simpa using nonempty), List.drop_left,
    decimalValue_paddedDecimal]

theorem takeField?_paddedDecimal {n : Nat} (small : n < 100) :
    takeField? (paddedDecimal 2 n ++ rest) = some (n, rest) := by
  rw [takeField?, skipBlanks_paddedDecimal,
    takeNumber?_paddedDecimal ends 2 (Nat.le_of_eq (length_paddedDecimal (by decide) small))]

theorem takeYear?_yearText (year : Int) :
    takeYear? (yearText year ++ rest) = some (year, rest) := by
  have whole : (paddedDecimal 4 year.natAbs).length ≤
      (paddedDecimal 4 year.natAbs ++ rest).length := by
    simp
  have signed := takeNumber?_paddedDecimal ends _ whole
  unfold yearText
  split
  · rename_i before
    rw [List.cons_append, takeYear?, skipBlanks_cons '-' _ (by decide)]
    simp only [signed, Option.map_some, Option.some.injEq, Prod.mk.injEq, and_true]
    omega
  · split
    · rw [List.cons_append, takeYear?, skipBlanks_cons '+' _ (by decide)]
      simp only [signed, Option.map_some, Option.some.injEq, Prod.mk.injEq, and_true]
      omega
    · have short : (paddedDecimal 4 year.natAbs).length = 4 :=
        length_paddedDecimal (by decide) (by omega)
      have unsigned := takeNumber?_paddedDecimal ends 4 (Nat.le_of_eq short)
      obtain ⟨c, digits, front, digit⟩ := exists_paddedDecimal_eq_cons 4 year.natAbs
      rw [takeYear?, skipBlanks_paddedDecimal]
      rw [front, List.cons_append] at unsigned ⊢
      split
      · simp_all
      · simp_all
      · rw [unsigned]
        simp only [Option.map_some, Option.some.injEq, Prod.mk.injEq, and_true]
        omega

end Fields

theorem takeMark?_cons (mark : Char) (rest : List Char) (visible : isBlank mark = false) :
    takeMark? mark (mark :: rest) = some rest := by
  rw [takeMark?, skipBlanks_cons mark rest visible]
  exact if_pos rfl

theorem nanoseconds_paddedDecimal {width n : Nat} (positive : 0 < width) (short : width ≤ 9)
    (fits : n < 10 ^ width) : nanoseconds (paddedDecimal width n) = 10 ^ (9 - width) * n := by
  have length := length_paddedDecimal positive fits
  rw [nanoseconds, List.take_append, List.take_of_length_le (by omega), length, List.take_replicate,
    decimalValue_append_zeros, decimalValue_paddedDecimal, Nat.min_eq_left (by omega)]

theorem takeFraction?_fractionText {nanosecond : Nat} (small : nanosecond < 1000000000) :
    takeFraction? (fractionText nanosecond ++ ['Z']) = some (nanosecond, ['Z']) := by
  -- Digits are written only if those left out are zeros.
  have written : ∀ width n, 0 < width → width ≤ 9 → n < 10 ^ width →
      takeFraction? ('.' :: paddedDecimal width n ++ ['Z']) =
        some (10 ^ (9 - width) * n, ['Z']) := by
    intro width n positive short fits
    have all : ∀ c ∈ paddedDecimal width n, c.isDigit = true := fun c =>
      isDigit_of_mem_paddedDecimal
    have stop : ∀ c ∈ ['Z'].head?, c.isDigit = false := by simp
    have ⟨digits, behind⟩ := takeWhile_append_of_head? all stop
    have nonempty : paddedDecimal width n ≠ [] := by
      simp [paddedDecimal, decimal_ne_nil]
    rw [List.cons_append, takeFraction?, digits, behind, if_neg (by simpa using nonempty),
      nanoseconds_paddedDecimal positive short fits]
  unfold fractionText
  split
  · rename_i zero
    rw [zero]
    rfl
  · split
    · rw [written 3 _ (by decide) (by decide) (by omega)]
      congr 2
      omega
    · split
      · rw [written 6 _ (by decide) (by decide) (by omega)]
        congr 2
        omega
      · rw [written 9 _ (by decide) (by decide) small]
        congr 2
        omega

theorem takeDate?_append {date : Date} (valid : date.isValid = true) {rest : List Char}
    (ends : ∀ c ∈ rest.head?, c.isDigit = false) :
    takeDate? (yearText date.year ++ '-' :: paddedDecimal 2 date.month ++
      '-' :: paddedDecimal 2 date.day ++ rest) = some (date, rest) := by
  have inside : date.month < 100 ∧ date.day < 100 := by
    simp only [Date.isValid, Bool.and_eq_true, decide_eq_true_eq] at valid
    have : Date.daysInMonth date.year date.month ≤ 31 := by
      unfold Date.daysInMonth
      split
      · split <;> decide
      · split <;> decide
    omega
  have hyphen : ∀ others : List Char, ∀ c ∈ ('-' :: others).head?, c.isDigit = false := by
    simp
  simp only [List.append_assoc, List.cons_append, takeDate?, Option.bind_eq_bind,
    takeYear?_yearText (hyphen _), takeMark?_cons '-' _ (by decide),
    takeField?_paddedDecimal (hyphen _) inside.1, takeField?_paddedDecimal ends inside.2,
    Option.bind_some]
  rfl

theorem takeClock?_append {minute : Nat} (inside : minute < 1440) {rest : List Char}
    (ends : ∀ c ∈ rest.head?, c.isDigit = false) :
    takeClock? (paddedDecimal 2 (minute / 60) ++ ':' :: paddedDecimal 2 (minute % 60) ++ rest) =
      some (minute, rest) := by
  have colon : ∀ others : List Char, ∀ c ∈ (':' :: others).head?, c.isDigit = false := by
    simp
  have hour : minute / 60 < 100 := by omega
  have within : minute % 60 < 60 := Nat.mod_lt _ (by decide)
  simp only [List.append_assoc, List.cons_append, takeClock?, Option.bind_eq_bind,
    takeField?_paddedDecimal (colon _) hour, takeMark?_cons ':' _ (by decide),
    takeField?_paddedDecimal ends (Nat.lt_trans within (by decide)), Option.bind_some, within,
    if_true, Nat.div_add_mod]

/-- In UTC the local time is the instant itself. -/
theorem ofLocal?_zero (instant : Instant) :
    Instant.ofLocal? instant.date instant.minute instant.second instant.nanosecond 0 =
      some instant := by
  have valid := instant.valid
  have inside : instant.minute < 1440 := by
    simp only [Instant.isValid, Bool.and_eq_true, decide_eq_true_eq] at valid
    exact valid.1.1.2
  have same : Instant.shifted instant.date instant.minute (-0) =
      (instant.date, instant.minute) := by
    rw [Instant.shifted]
    simp only [Int.neg_zero, Int.add_zero]
    rw [if_neg (by omega), if_neg (by omega)]
    rfl
  rw [Instant.ofLocal?, if_pos valid, same]
  exact dif_pos valid

theorem fractionText_ends (nanosecond : Nat) :
    ∀ c ∈ (fractionText nanosecond ++ ['Z']).head?, c.isDigit = false := by
  unfold fractionText
  split
  · simp
  · split
    · simp
    · split <;> simp

/-- An instant is read back from its text. -/
theorem parse?_render (instant : Instant) : parse? (render instant) = some instant := by
  have valid := instant.valid
  simp only [Instant.isValid, Bool.and_eq_true, decide_eq_true_eq] at valid
  obtain ⟨⟨⟨⟨⟨date, -⟩, -⟩, minute⟩, second⟩, nanosecond⟩ := valid
  have divider : ∀ others : List Char, ∀ c ∈ ('T' :: others).head?, c.isDigit = false := by
    simp
  have colon : ∀ others : List Char, ∀ c ∈ (':' :: others).head?, c.isDigit = false := by
    simp
  have spelled : chars instant =
      yearText instant.date.year ++ '-' :: paddedDecimal 2 instant.date.month ++
        '-' :: paddedDecimal 2 instant.date.day ++ 'T' ::
      (paddedDecimal 2 (instant.minute / 60) ++ ':' :: paddedDecimal 2 (instant.minute % 60) ++
        ':' :: (paddedDecimal 2 instant.second ++ (fractionText instant.nanosecond ++ ['Z']))) := by
    simp [chars]
  have offset : takeOffset? ['Z'] = some (0, []) := by
    decide
  rw [parse?, render, String.toList_ofList, ofChars?, spelled, takeDate?_append date (divider _)]
  simp only [Option.bind_eq_bind, Option.bind_some, takeDivider?, Bool.true_or,
    decide_true, if_true, takeClock?_append minute (colon _), takeMark?_cons ':' _ (by decide),
    takeField?_paddedDecimal (fractionText_ends _) (Nat.lt_of_le_of_lt second (by decide)),
    takeFraction?_fractionText nanosecond, offset, List.all_nil, ofLocal?_zero]

end Rfc3339

end ContainerStreams
