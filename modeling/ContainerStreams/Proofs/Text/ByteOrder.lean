import Mathlib.Data.String.Basic

set_option autoImplicit false

namespace ContainerStreams.Text

def bytes (text : String) : List UInt8 := text.toUTF8.data.toList

theorem bytes_eq_flatMap (text : String) :
    bytes text = text.toList.flatMap String.utf8EncodeChar := by
  unfold bytes
  conv_lhs => rw [← String.ofList_toList (s := text)]
  rw [String.toUTF8_eq_toByteArray, String.toByteArray_ofList]
  simp [List.utf8Encode]

/-- The first byte decides, and if it is the same, the rest does. -/
theorem byte_cons_lt {m n : Nat} {s t : List UInt8} (small : n < 256)
    (before : m < n ∨ m = n ∧ s < t) : UInt8.ofNat m :: s < UInt8.ofNat n :: t := by
  rw [List.cons_lt_cons_iff, UInt8.lt_iff_toNat_lt]
  rcases before with less | ⟨rfl, rest⟩
  · left
    rwa [UInt8.toNat_ofNat_of_lt' small, UInt8.toNat_ofNat_of_lt' (less.trans small)]
  · exact Or.inr ⟨rfl, rest⟩

/-- The continuation bytes of a code point: its last digits to the base 64. -/
def continuation (code : Nat) : Nat → List UInt8
  | 0 => []
  | count + 1 => UInt8.ofNat (code / 64 ^ count % 64 + 128) :: continuation code count

theorem continuation_lt {a b : Nat} (less : a < b) (s t : List UInt8) (count : Nat)
    (same : a / 64 ^ count = b / 64 ^ count) :
    continuation a count ++ s < continuation b count ++ t := by
  induction count with
  | zero =>
    rw [pow_zero, Nat.div_one, Nat.div_one] at same
    exact absurd same less.ne
  | succ count ih =>
    rw [pow_succ, ← Nat.div_div_eq_div_mul, ← Nat.div_div_eq_div_mul] at same
    have ordered : a / 64 ^ count ≤ b / 64 ^ count := Nat.div_le_div_right less.le
    refine byte_cons_lt (by omega) ?_
    rcases ordered.lt_or_eq with digit | digit
    · left
      omega
    · exact Or.inr ⟨by rw [digit], ih digit⟩

/-- Codes of one length compare by their first byte and then by the others. -/
theorem lead_continuation_lt {a b : Nat} (less : a < b) (s t : List UInt8) (count : Nat)
    (lead : Nat → Nat) (small : lead (b / 64 ^ count) < 256)
    (mono : a / 64 ^ count < b / 64 ^ count → lead (a / 64 ^ count) < lead (b / 64 ^ count)) :
    UInt8.ofNat (lead (a / 64 ^ count)) :: continuation a count ++ s <
      UInt8.ofNat (lead (b / 64 ^ count)) :: continuation b count ++ t := by
  have ordered : a / 64 ^ count ≤ b / 64 ^ count := Nat.div_le_div_right less.le
  refine byte_cons_lt small ?_
  rcases ordered.lt_or_eq with digit | digit
  · exact Or.inl (mono digit)
  · exact Or.inr ⟨by rw [digit], continuation_lt less s t count digit⟩

/-- The encodings of different code points differ before either of them ends. -/
theorem utf8EncodeChar_append_lt {a b : Char} (before : a < b) (s t : List UInt8) :
    String.utf8EncodeChar a ++ s < String.utf8EncodeChar b ++ t := by
  have less : a.val.toNat < b.val.toNat := before
  have small : b.val.toNat < 1114112 := by
    rcases b.valid with low | ⟨-, high⟩
    · omega
    · exact high
  unfold String.utf8EncodeChar
  dsimp only
  split_ifs
  any_goals omega
  -- Codes of different lengths have different first bytes.
  all_goals try exact byte_cons_lt (by omega) (.inl (by omega))
  · have ordered := lead_continuation_lt less s t 1 (· % 32 + 192) (by omega) (by omega)
    simpa [continuation] using ordered
  · have ordered := lead_continuation_lt less s t 2 (· % 16 + 224) (by omega) (by omega)
    simpa [continuation] using ordered
  · have ordered := lead_continuation_lt less s t 3 (· % 8 + 240) (by omega) (by omega)
    simpa [continuation] using ordered

theorem flatMap_utf8EncodeChar_lt {first second : List Char} (before : first < second) :
    first.flatMap String.utf8EncodeChar < second.flatMap String.utf8EncodeChar := by
  induction first generalizing second with
  | nil =>
    cases second with
    | nil => exact absurd before (List.not_lt_nil _)
    | cons char rest =>
      obtain ⟨byte, others, encoded⟩ := List.exists_cons_of_ne_nil String.utf8EncodeChar_ne_nil
      rw [List.flatMap_nil, List.flatMap_cons, encoded, List.cons_append]
      exact List.nil_lt_cons _ _
  | cons char rest ih =>
    cases second with
    | nil => exact absurd before (List.not_lt_nil _)
    | cons other others =>
      rw [List.flatMap_cons, List.flatMap_cons]
      rcases List.cons_lt_cons_iff.mp before with earlier | ⟨rfl, later⟩
      · exact utf8EncodeChar_append_lt earlier _ _
      · exact List.append_left_lt (ih later)

/-- Texts are in the order of their bytes. -/
theorem lt_iff_bytes_lt (first second : String) : first < second ↔ bytes first < bytes second := by
  have forward {first second : String} (before : first < second) : bytes first < bytes second := by
    rw [bytes_eq_flatMap, bytes_eq_flatMap]
    exact flatMap_utf8EncodeChar_lt (String.lt_iff.mp before)
  refine ⟨forward, fun before => ?_⟩
  rcases lt_trichotomy first second with less | rfl | greater
  · exact less
  · exact absurd before (List.lt_irrefl _)
  · exact absurd (forward greater) (List.lt_asymm before)

theorem le_iff_bytes_le (first second : String) : first ≤ second ↔ bytes first ≤ bytes second := by
  rw [← String.not_lt, lt_iff_bytes_lt, List.not_lt]

end ContainerStreams.Text
