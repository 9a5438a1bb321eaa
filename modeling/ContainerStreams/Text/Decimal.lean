set_option autoImplicit false

namespace ContainerStreams.Text

def decimalValue (digits : List Char) : Nat :=
  Nat.ofDigitChars 10 digits 0

/-- The digits of a number, without leading zeros. -/
def decimal (n : Nat) : List Char :=
  Nat.toDigits 10 n

def paddedDecimal (width n : Nat) : List Char :=
  List.replicate (width - (decimal n).length) '0' ++ decimal n

theorem decimalValue_decimal (n : Nat) : decimalValue (decimal n) = n :=
  Nat.ofDigitChars_toDigits (by decide) (by decide)

theorem decimalValue_zero_cons (digits : List Char) :
    decimalValue ('0' :: digits) = decimalValue digits := rfl

theorem decimalValue_paddedDecimal (width n : Nat) :
    decimalValue (paddedDecimal width n) = n := by
  unfold paddedDecimal
  generalize width - (decimal n).length = missing
  induction missing with
  | zero => exact decimalValue_decimal n
  | succ missing ih => rw [List.replicate_succ, List.cons_append, decimalValue_zero_cons, ih]

theorem decimal_ne_nil (n : Nat) : decimal n ≠ [] :=
  Nat.toDigits_ne_nil

theorem isDigit_of_mem_decimal {n : Nat} {c : Char} (member : c ∈ decimal n) :
    c.isDigit = true :=
  Nat.isDigit_of_mem_toDigits (by decide) (by decide) member

/-- No number but zero begins with a zero. -/
theorem eq_zero_of_head?_decimal (n : Nat) (zero : (decimal n).head? = some '0') : n = 0 := by
  induction n using Nat.strongRecOn with
  | ind n ih =>
    by_cases small : n < 10
    · rw [decimal, Nat.toDigits_of_lt_base small, List.head?_cons, Option.some.injEq,
        Nat.digitChar_eq_zero] at zero
      exact zero
    · have split : decimal n = decimal (n / 10) ++ [Nat.digitChar (n % 10)] :=
        Nat.toDigits_of_base_le (by decide) (by omega)
      obtain ⟨c, rest, front⟩ := List.exists_cons_of_ne_nil (decimal_ne_nil (n / 10))
      have first : (decimal n).head? = (decimal (n / 10)).head? := by
        rw [split, front]
        rfl
      have := ih (n / 10) (by omega) (first ▸ zero)
      omega

theorem isDigit_of_mem_paddedDecimal {width n : Nat} {c : Char}
    (member : c ∈ paddedDecimal width n) : c.isDigit = true := by
  rcases List.mem_append.mp member with zero | digit
  · rw [List.eq_of_mem_replicate zero]
    decide
  · exact isDigit_of_mem_decimal digit

/-- A run that ends where the text behind it begins is taken off whole. -/
theorem takeWhile_append_of_head? {p : Char → Bool} {run rest : List Char}
    (all : ∀ c ∈ run, p c = true) (ends : ∀ c ∈ rest.head?, p c = false) :
    (run ++ rest).takeWhile p = run ∧ (run ++ rest).dropWhile p = rest := by
  rw [List.takeWhile_append_of_pos all, List.dropWhile_append_of_pos all]
  cases rest with
  | nil => simp
  | cons c rest => simp [ends c rfl]

end ContainerStreams.Text
