import ContainerStreams.Text.Decimal
import Mathlib.Data.List.Induction

set_option autoImplicit false

namespace ContainerStreams.Text

abbrev IsLetter (c : Char) : Prop := 'a' ≤ c ∧ c ≤ 'z' ∨ 'A' ≤ c ∧ c ≤ 'Z'

abbrev IsDigit (c : Char) : Prop := '0' ≤ c ∧ c ≤ '9'

theorem isLower_iff (c : Char) : c.isLower = true ↔ 'a' ≤ c ∧ c ≤ 'z' := by
  change (decide ('a' ≤ c) && decide (c ≤ 'z')) = true ↔ _
  rw [Bool.and_eq_true, decide_eq_true_eq, decide_eq_true_eq]

theorem isUpper_iff (c : Char) : c.isUpper = true ↔ 'A' ≤ c ∧ c ≤ 'Z' := by
  change decide ('A' ≤ c ∧ c ≤ 'Z') = true ↔ _
  rw [decide_eq_true_eq]

theorem isDigit_iff (c : Char) : c.isDigit = true ↔ IsDigit c := by
  change (decide ('0' ≤ c) && decide (c ≤ '9')) = true ↔ _
  rw [Bool.and_eq_true, decide_eq_true_eq, decide_eq_true_eq]

theorem isAlpha_iff (c : Char) : c.isAlpha = true ↔ IsLetter c := by
  change (c.isUpper || c.isLower) = true ↔ _
  rw [Bool.or_eq_true, isUpper_iff, isLower_iff, or_comm]

theorem isAlphanum_iff (c : Char) : c.isAlphanum = true ↔ IsLetter c ∨ IsDigit c := by
  change (c.isAlpha || c.isDigit) = true ↔ _
  rw [Bool.or_eq_true, isAlpha_iff, isDigit_iff]

/-- The digits of a number, with any number of zeros in front of them. -/
def IsNumeral (n : Nat) (digits : List Char) : Prop :=
  ∃ zeros, digits = List.replicate zeros '0' ++ decimal n

theorem digitChar_of_isDigit {c : Char} (digit : c.isDigit = true) :
    c.toNat - '0'.toNat < 10 ∧ Nat.digitChar (c.toNat - '0'.toNat) = c := by
  obtain ⟨low, high⟩ := Char.isDigit_iff_toNat.mp digit
  have zero : '0'.toNat = 48 := rfl
  have nine : '9'.toNat = 57 := rfl
  have small : c.toNat - '0'.toNat < 10 := by omega
  refine ⟨small, Char.toNat_inj.mp ?_⟩
  rw [Nat.toNat_digitChar_of_lt_ten small]
  omega

theorem decimalValue_concat (digits : List Char) (c : Char) :
    decimalValue (digits ++ [c]) = 10 * decimalValue digits + (c.toNat - '0'.toNat) := by
  rw [decimalValue, Nat.ofDigitChars_append, Nat.ofDigitChars_cons, Nat.ofDigitChars_nil]
  rfl

theorem decimal_of_lt {d : Nat} (small : d < 10) : decimal d = [Nat.digitChar d] :=
  Nat.toDigits_of_lt_base small

theorem isNumeral_concat {n d : Nat} {digits : List Char} (numeral : IsNumeral n digits)
    (small : d < 10) : IsNumeral (10 * n + d) (digits ++ [Nat.digitChar d]) := by
  obtain ⟨zeros, rfl⟩ := numeral
  by_cases zero : n = 0
  · -- The digits are zeros only, and become leading ones.
    subst zero
    refine ⟨zeros + 1, ?_⟩
    rw [Nat.mul_zero, Nat.zero_add, decimal_of_lt small, List.replicate_succ']
    rfl
  · refine ⟨zeros, ?_⟩
    have longer : decimal (10 * n + d) = decimal n ++ [Nat.digitChar d] := by
      have split := Nat.toDigits_of_base_le (b := 10) (n := 10 * n + d) (by decide) (by omega)
      have front : (10 * n + d) / 10 = n := by omega
      have last : (10 * n + d) % 10 = d := by omega
      rwa [front, last] at split
    rw [longer, List.append_assoc]

/-- Digits are a numeral, of one number only. -/
theorem isNumeral_iff (n : Nat) (digits : List Char) : IsNumeral n digits ↔
    (digits ≠ [] ∧ ∀ c ∈ digits, c.isDigit = true) ∧ decimalValue digits = n := by
  constructor
  · intro numeral
    obtain ⟨zeros, rfl⟩ := numeral
    have padded : List.replicate zeros '0' ++ decimal n =
        paddedDecimal (zeros + (decimal n).length) n := by
      rw [paddedDecimal, Nat.add_sub_cancel]
    refine ⟨⟨List.append_ne_nil_of_right_ne_nil _ (decimal_ne_nil n), ?_⟩, ?_⟩
    · intro c member
      rw [padded] at member
      exact isDigit_of_mem_paddedDecimal member
    · rw [padded, decimalValue_paddedDecimal]
  · rintro ⟨⟨nonempty, all⟩, rfl⟩
    -- The digits are taken as they are read, and the last one is the lowest.
    induction digits using List.reverseRecOn with
    | nil => exact absurd rfl nonempty
    | append_singleton digits c ih =>
      obtain ⟨small, same⟩ := digitChar_of_isDigit (all c (by simp))
      rw [decimalValue_concat]
      by_cases first : digits = []
      · subst first
        have none : decimalValue [] = 0 := rfl
        refine ⟨0, ?_⟩
        rw [none, Nat.mul_zero, Nat.zero_add, decimal_of_lt small, same]
        rfl
      · have numeral := ih first fun other member => all other (List.mem_append_left _ member)
        have longer := isNumeral_concat numeral small
        rwa [same] at longer

/-- Pieces with a single separator between any two of them. -/
inductive Joined (separates : Char → Prop) (piece : List Char → Prop) : List Char → Prop
  | piece {text : List Char} (isPiece : piece text) : Joined separates piece text
  | joined {front rest : List Char} {c : Char} (isPiece : piece front) (separator : separates c)
      (others : Joined separates piece rest) : Joined separates piece (front ++ c :: rest)

theorem exists_first_separator {separates : Char → Prop} {text : List Char}
    (divided : ∃ c ∈ text, separates c) :
    ∃ front c rest, text = front ++ c :: rest ∧ separates c ∧ ∀ other ∈ front, ¬ separates other := by
  induction text with
  | nil =>
    obtain ⟨_, member, -⟩ := divided
    cases member
  | cons first text ih =>
    by_cases separator : separates first
    · exact ⟨[], first, text, rfl, separator, List.forall_mem_nil _⟩
    · have later : ∃ c ∈ text, separates c := by
        obtain ⟨c, member, separates⟩ := divided
        rcases List.mem_cons.mp member with rfl | inText
        · exact absurd separates separator
        · exact ⟨c, inText, separates⟩
      obtain ⟨front, c, rest, rfl, separates, free⟩ := ih later
      exact ⟨first :: front, c, rest, rfl, separates,
        List.forall_mem_cons.mpr ⟨separator, free⟩⟩

section Joined

variable {separates : Char → Prop} {piece : List Char → Prop} {reads : List Char → Bool}
  (divides : ∀ front c rest, separates c →
    reads (front ++ c :: rest) = (reads front && reads rest))
  (pieces : ∀ text, piece text ↔ reads text = true ∧ ∀ c ∈ text, ¬ separates c)
include divides pieces

theorem joined_of_reads (text : List Char) (read : reads text = true) :
    Joined separates piece text := by
  by_cases divided : ∃ c ∈ text, separates c
  · obtain ⟨front, c, rest, rfl, separator, free⟩ := exists_first_separator divided
    rw [divides front c rest separator, Bool.and_eq_true] at read
    exact .joined ((pieces front).mpr ⟨read.1, free⟩) separator (joined_of_reads rest read.2)
  · refine .piece ((pieces text).mpr ⟨read, fun c member separator => ?_⟩)
    exact divided ⟨c, member, separator⟩
-- The text behind the first separator is shorter.
termination_by text.length
decreasing_by
  simp only [*, List.length_append, List.length_cons]
  omega

/-- A reader that may be stopped and started afresh at each separator reads what is joined of the
pieces it reads. -/
theorem reads_iff_joined (text : List Char) :
    reads text = true ↔ Joined separates piece text := by
  refine ⟨joined_of_reads divides pieces text, fun joined => ?_⟩
  induction joined with
  | piece isPiece => exact ((pieces _).mp isPiece).1
  | joined isPiece separator others ih =>
    rw [divides _ _ _ separator, ((pieces _).mp isPiece).1, ih, Bool.and_self]

end Joined

end ContainerStreams.Text
