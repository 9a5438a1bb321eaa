import ContainerStreams.Json.Printer
import Mathlib.Data.List.Chain

set_option autoImplicit false

namespace ContainerStreams.Json

namespace Token

/-- Whether a character behind a number would be taken for a part of it. -/
def extendsNumber (c : Char) : Bool :=
  c.isDigit || c = '.' || c = 'e' || c = 'E'

section Numbers

variable {rest : List Char} (ends : ∀ c ∈ rest.head?, extendsNumber c = false)
include ends

theorem scanFraction_of_ends : scanFraction rest = some ([], rest) := by
  cases rest with
  | nil => rfl
  | cons c rest =>
    have other : c ≠ '.' := by
      rintro rfl
      exact absurd (ends '.' rfl) (by decide)
    unfold scanFraction
    split
    · simp_all
    · rfl

theorem scanExponent_of_ends : scanExponent rest = some ([], rest) := by
  cases rest with
  | nil => rfl
  | cons c rest =>
    have other := ends c rfl
    simp only [extendsNumber, Bool.or_eq_false_iff] at other
    simp [scanExponent, other]

theorem scanUnsigned_decimal (negative : Bool) (n : Nat) :
    scanUnsigned negative (Text.decimal n ++ rest) = some (.integer negative n, rest) := by
  have stop : ∀ c ∈ rest.head?, c.isDigit = false := by
    intro c first
    have other := ends c first
    simp only [extendsNumber, Bool.or_eq_false_iff] at other
    exact other.1.1.1
  have all : ∀ c ∈ Text.decimal n, c.isDigit = true := fun c => Text.isDigit_of_mem_decimal
  have ⟨digits, behind⟩ := Text.takeWhile_append_of_head? all stop
  have single : (Text.decimal n).head? = some '0' → ¬ 1 < (Text.decimal n).length := by
    intro zero
    rw [Text.eq_zero_of_head?_decimal n zero]
    decide
  rw [scanUnsigned, digits, behind, if_neg]
  · simp [scanFraction_of_ends ends, scanExponent_of_ends ends, Text.decimalValue_decimal]
  · simpa [Text.decimal_ne_nil] using single

/-- Digits begin no other token. -/
theorem scan_decimal (n : Nat) :
    scan (Text.decimal n ++ rest) = some (.number (.integer false n), rest) := by
  have number := scanUnsigned_decimal ends false n
  obtain ⟨c, digits, front⟩ := List.exists_cons_of_ne_nil (Text.decimal_ne_nil n)
  have digit : c.isDigit = true := Text.isDigit_of_mem_decimal (n := n) (by simp [front])
  rw [front, List.cons_append] at number ⊢
  have unsigned : scanNumber (c :: (digits ++ rest)) =
      scanUnsigned false (c :: (digits ++ rest)) := by
    unfold scanNumber
    split
    · simp_all
    · rfl
  unfold scan
  split <;> simp_all

theorem scan_number (negative : Bool) (n : Nat) :
    scan ((Number.integer negative n).text ++ rest) =
      some (.number (.integer negative n), rest) := by
  cases negative with
  | false => exact scan_decimal ends n
  | true =>
    have number := scanUnsigned_decimal ends true n
    change (scanUnsigned true (Text.decimal n ++ rest)).map _ = _
    rw [number]
    rfl

end Numbers

section Strings

theorem hexCode?_escape : ∀ code < 0x20,
    hexCode? '0' '0' (Nat.digitChar (code / 16)) (Nat.digitChar (code % 16)) = some code := by
  decide

theorem ofCode_toNat (c : Char) (control : c.toNat < 0x20) :
    CodeUnit.ofCode c.toNat = .char c := by
  have plain : (isHighSurrogate c.toNat || isLowSurrogate c.toNat) = false := by
    simp only [isHighSurrogate, isLowSurrogate, Bool.or_eq_false_iff, Bool.and_eq_false_iff,
      decide_eq_false_iff_not]
    omega
  simp [CodeUnit.ofCode, plain]

theorem scanUnits_escapeCode (done : List CodeUnit) (c : Char) (control : c.toNat < 0x20)
    (rest : List Char) :
    scanUnits done (escapeCode c.toNat ++ rest) = scanUnits (.char c :: done) rest := by
  have code := hexCode?_escape c.toNat control
  simp only [escapeCode, List.cons_append, List.nil_append, scanUnits, code, ofCode_toNat c control]

theorem scanUnits_cons (done : List CodeUnit) (c : Char) (rest : List Char) (quote : c ≠ '"')
    (backslash : c ≠ '\\') (visible : 0x20 ≤ c.toNat) :
    scanUnits done (c :: rest) = scanUnits (.char c :: done) rest := by
  have plain : (c = '\\' || c.toNat < 0x20) = false := by
    simpa using ⟨backslash, visible⟩
  rw [scanUnits.eq_def done (c :: rest)]
  split
  · simp_all
  · simp_all
  · simp_all
  · simp_all
  · rename_i same
    obtain ⟨rfl, rfl⟩ := List.cons.inj same
    simp only [plain, Bool.false_eq_true, if_false]

/-- A character is read back from its escape, or from itself. -/
theorem scanUnits_escapeChar (done : List CodeUnit) (c : Char) (rest : List Char) :
    scanUnits done (escapeChar c ++ rest) = scanUnits (.char c :: done) rest := by
  unfold escapeChar
  split
  · rfl
  · rfl
  · rfl
  · rfl
  · rfl
  · rfl
  · rfl
  · rename_i quote backslash _ _ _ _ _
    split
    · rename_i control
      exact scanUnits_escapeCode done c control rest
    · rename_i visible
      exact scanUnits_cons done c rest quote backslash (Nat.le_of_not_lt visible)

theorem scanUnits_flatMap_escapeChar (done : List CodeUnit) (text rest : List Char) :
    scanUnits done (text.flatMap escapeChar ++ '"' :: rest) =
      some (done.reverse ++ text.map .char, rest) := by
  induction text generalizing done with
  | nil => simp [scanUnits]
  | cons c text ih =>
    rw [List.flatMap_cons, List.append_assoc, scanUnits_escapeChar, ih]
    simp

theorem joinUnits_chars (done text : List Char) :
    joinUnits done (text.map .char) = some (done.reverse ++ text) := by
  induction text generalizing done with
  | nil => simp [joinUnits]
  | cons c text ih => simp [joinUnits, ih]

theorem scan_string (text : String) (rest : List Char) :
    scan ((Token.string (some text)).text ++ rest) = some (.string (some text), rest) := by
  have units := scanUnits_flatMap_escapeChar [] text.toList rest
  have spelled : (Token.string (some text)).text ++ rest =
      '"' :: (text.toList.flatMap escapeChar ++ '"' :: rest) := by
    simp [Token.text]
  rw [spelled]
  change (scanUnits [] (text.toList.flatMap escapeChar ++ '"' :: rest)).map _ = _
  rw [units]
  simp [joinUnits_chars]

end Strings

def isNumber : Token → Bool
  | .number _ => true
  | _ => false

/-- Whether the text of a token says everything about it. -/
def isExact : Token → Bool
  | .number (.real _) => false
  | .string none => false
  | _ => true

/-- The first character tells a number from every other token. -/
theorem exists_text_eq_cons (token : Token) (exact : token.isExact = true) :
    ∃ first rest, token.text = first :: rest ∧ isBlank first = false ∧
      (token.isNumber = false → extendsNumber first = false) := by
  cases token with
  | number value =>
    cases value with
    | real text => cases exact
    | integer negative n =>
      cases negative with
      | true => exact ⟨'-', _, rfl, by decide, nofun⟩
      | false =>
        obtain ⟨c, digits, front⟩ := List.exists_cons_of_ne_nil (Text.decimal_ne_nil n)
        have digit : c.isDigit = true := Text.isDigit_of_mem_decimal (n := n) (by simp [front])
        refine ⟨c, digits, front, ?_, nofun⟩
        cases blank : isBlank c with
        | false => rfl
        | true =>
          simp only [isBlank, Bool.or_eq_true, decide_eq_true_eq] at blank
          rcases blank with ((rfl | rfl) | rfl) | rfl <;> cases digit
  | string text => exact ⟨'"', _, rfl, by decide, fun _ => by decide⟩
  | bool value => cases value <;> exact ⟨_, _, rfl, by decide, by decide⟩
  | openBrace | closeBrace | openBracket | closeBracket | colon | comma | null =>
    exact ⟨_, _, rfl, by decide, by decide⟩

theorem scan_text (token : Token) (exact : token.isExact = true) (rest : List Char)
    (ends : token.isNumber = true → ∀ c ∈ rest.head?, extendsNumber c = false) :
    scan (token.text ++ rest) = some (token, rest) := by
  cases token with
  | number value =>
    cases value with
    | real text => cases exact
    | integer negative n => exact scan_number (ends rfl) negative n
  | string text =>
    cases text with
    | none => cases exact
    | some text => exact scan_string text rest
  | bool value => cases value <;> rfl
  | openBrace | closeBrace | openBracket | closeBracket | colon | comma | null => rfl

/-- Not two numbers. -/
def Apart (a b : Token) : Prop :=
  a.isNumber = true → b.isNumber = false

/-- Tokens whose texts, put one behind the other, spell them. -/
structure Spelled (tokens : List Token) : Prop where
  exact : ∀ token ∈ tokens, token.isExact = true
  apart : tokens.IsChain Apart

theorem Spelled.tail {token : Token} {tokens : List Token} (spelled : Spelled (token :: tokens)) :
    Spelled tokens :=
  ⟨fun other member => spelled.exact other (List.mem_cons_of_mem _ member), spelled.apart.tail⟩

/-- What stands behind a number does not go on with it. -/
theorem Spelled.ends {token : Token} {tokens : List Token} (spelled : Spelled (token :: tokens))
    (number : token.isNumber = true) :
    ∀ c ∈ (tokens.flatMap text).head?, extendsNumber c = false := by
  cases tokens with
  | nil => simp
  | cons next tokens =>
    obtain ⟨first, rest, front, -, other⟩ := next.exists_text_eq_cons (spelled.exact next (by simp))
    have apart : Apart token next := (List.isChain_cons_cons.mp spelled.apart).1
    simp [front, other (apart number)]

/-- No token is without a text, so there are steps enough for all of them. -/
theorem scanAll_flatMap_text {tokens : List Token} (spelled : Spelled tokens) (done : List Token)
    (steps : Nat) (enough : (tokens.flatMap text).length ≤ steps) :
    scanAll done steps (tokens.flatMap text) = some (done.reverse ++ tokens) := by
  induction tokens generalizing done steps with
  | nil => cases steps <;> simp [scanAll]
  | cons token tokens ih =>
    have exact : token.isExact = true := spelled.exact token (by simp)
    have scanned := token.scan_text exact (tokens.flatMap text) spelled.ends
    obtain ⟨first, rest, front, visible, -⟩ := token.exists_text_eq_cons exact
    rw [List.flatMap_cons, front, List.cons_append] at enough ⊢
    rw [front, List.cons_append] at scanned
    cases steps with
    | zero => simp at enough
    | succ steps =>
      have fewer : (tokens.flatMap text).length ≤ steps := by
        simp only [List.length_cons, List.length_append] at enough
        omega
      rw [scanAll, visible, scanned]
      simp [ih spelled.tail (token :: done) steps fewer]

theorem ofText?_flatMap_text {tokens : List Token} (spelled : Spelled tokens) :
    ofText? (tokens.flatMap text) = some tokens :=
  scanAll_flatMap_text spelled [] _ (Nat.le_refl _)

/-- A token that is no number may stand between any tokens. -/
theorem Spelled.join {before after : List Token} (left : Spelled before) (mark : Token)
    (right : Spelled after) (exact : mark.isExact = true) (single : mark.isNumber = false) :
    Spelled (before ++ mark :: after) where
  exact := by
    intro token member
    rcases List.mem_append.mp member with earlier | later
    · exact left.exact token earlier
    · rcases List.mem_cons.mp later with rfl | last
      · exact exact
      · exact right.exact token last
  apart := by
    rw [List.isChain_append, List.isChain_cons]
    refine ⟨left.apart, ⟨?_, right.apart⟩, ?_⟩
    · intro next _ number
      exact absurd number (by simp [single])
    · intro last _ first member _
      obtain rfl : mark = first := Option.some.inj member
      exact single

end Token

end ContainerStreams.Json
