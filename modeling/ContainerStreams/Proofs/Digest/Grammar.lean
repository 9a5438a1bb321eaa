import ContainerStreams.Digest.Content
import ContainerStreams.Proofs.Text.Grammar

set_option autoImplicit false

namespace ContainerStreams.ContentDigest

/-- A letter, and then any number of letters and digits. -/
def IsWord (text : List Char) : Prop :=
  ∃ first rest, text = first :: rest ∧ Text.IsLetter first ∧
    ∀ c ∈ rest, Text.IsLetter c ∨ Text.IsDigit c

/-- What may stand between two words of an algorithm's name. -/
def Separates (c : Char) : Prop :=
  c = '-' ∨ c = '_' ∨ c = '+' ∨ c = '.'

structure IsHexText (text : List Char) : Prop where
  length : 32 ≤ text.length
  digits : ∀ c ∈ text, Text.IsDigit c ∨ 'a' ≤ c ∧ c ≤ 'f'

theorem isAlgorithmSeparator_iff (c : Char) : isAlgorithmSeparator c = true ↔ Separates c := by
  simp [isAlgorithmSeparator, Separates, or_assoc]

theorem not_isAlphanum_of_separates {c : Char} (separates : Separates c) :
    c.isAlphanum = false ∧ c.isAlpha = false := by
  rcases separates with rfl | rfl | rfl | rfl <;> decide

/-- A name is read word by word. -/
theorem readsAlgorithm_append_cons (inWord : Bool) (front rest : List Char) {c : Char}
    (separates : Separates c) : readsAlgorithm inWord (front ++ c :: rest) =
      (readsAlgorithm inWord front && readsAlgorithm false rest) := by
  have separator := (isAlgorithmSeparator_iff c).mpr separates
  have noLetter := (not_isAlphanum_of_separates separates).2
  induction front generalizing inWord with
  | nil => cases inWord <;> simp [readsAlgorithm, separator, noLetter]
  | cons first front ih =>
    cases inWord with
    | false => simp [readsAlgorithm, ih, Bool.and_assoc]
    | true =>
      by_cases divides : isAlgorithmSeparator first = true
      · simp [readsAlgorithm, divides, ih]
      · simp [readsAlgorithm, divides, ih, Bool.and_assoc]

/-- Within a word there are letters and digits only. -/
theorem readsAlgorithm_true_iff (text : List Char) :
    (readsAlgorithm true text = true ∧ ∀ c ∈ text, ¬ Separates c) ↔
      ∀ c ∈ text, c.isAlphanum = true := by
  induction text with
  | nil => simp [readsAlgorithm]
  | cons first rest ih =>
    rw [List.forall_mem_cons, List.forall_mem_cons, ← ih, readsAlgorithm, if_pos rfl]
    by_cases divides : Separates first
    · have noLetter := (not_isAlphanum_of_separates divides).1
      simp [divides, noLetter]
    · have within : ¬ isAlgorithmSeparator first = true := by
        rwa [isAlgorithmSeparator_iff]
      simp [divides, within, and_assoc]

theorem isWord_cons_iff (first : Char) (rest : List Char) : IsWord (first :: rest) ↔
    first.isAlpha = true ∧ ∀ c ∈ rest, c.isAlphanum = true := by
  simp only [Text.isAlpha_iff, Text.isAlphanum_iff]
  constructor
  · rintro ⟨_, _, same, letter, others⟩
    obtain ⟨rfl, rfl⟩ := List.cons_eq_cons.mp same
    exact ⟨letter, others⟩
  · rintro ⟨letter, others⟩
    exact ⟨first, rest, rfl, letter, others⟩

/-- A word is a name without a separator. -/
theorem isWord_iff (text : List Char) :
    IsWord text ↔ isAlgorithm text = true ∧ ∀ c ∈ text, ¬ Separates c := by
  cases text with
  | nil => exact iff_of_false nofun fun read => Bool.false_ne_true read.1
  | cons first rest =>
    have read : isAlgorithm (first :: rest) = (first.isAlpha && readsAlgorithm true rest) := by
      simp [isAlgorithm, readsAlgorithm]
    rw [isWord_cons_iff, ← readsAlgorithm_true_iff, read, Bool.and_eq_true, List.forall_mem_cons]
    have starts (letter : first.isAlpha = true) : ¬ Separates first := by
      intro separates
      rw [(not_isAlphanum_of_separates separates).2] at letter
      cases letter
    constructor
    · rintro ⟨letter, others, free⟩
      exact ⟨⟨letter, others⟩, starts letter, free⟩
    · rintro ⟨⟨letter, others⟩, -, free⟩
      exact ⟨letter, others, free⟩

/-- The name of an algorithm is words with a separator between any two of them. -/
theorem isAlgorithm_iff (name : List Char) :
    isAlgorithm name = true ↔ Text.Joined Separates IsWord name := by
  apply Text.reads_iff_joined
  · intro front c rest
    exact readsAlgorithm_append_cons false front rest
  · exact isWord_iff

example : Text.Joined Separates IsWord "sha256+b64u".toList ∧
    ¬ Text.Joined Separates IsWord "sha256+-b64u".toList := by
  rw [← isAlgorithm_iff, ← isAlgorithm_iff]
  decide

theorem isHexDigit_iff (c : Char) :
    isHexDigit c = true ↔ Text.IsDigit c ∨ 'a' ≤ c ∧ c ≤ 'f' := by
  rw [isHexDigit, Bool.or_eq_true, Text.isDigit_iff, Bool.and_eq_true, decide_eq_true_eq,
    decide_eq_true_eq]

theorem isHexValue_iff (text : List Char) : isHexValue text = true ↔ IsHexText text := by
  rw [isHexValue, Bool.and_eq_true, decide_eq_true_eq, List.all_eq_true]
  simp only [isHexDigit_iff]
  exact ⟨fun valid => ⟨valid.1, valid.2⟩, fun hex => ⟨hex.length, hex.digits⟩⟩

structure Spells (algorithm hex s : String) : Prop where
  text : algorithm ++ ":" ++ hex = s
  name : Text.Joined Separates IsWord algorithm.toList
  value : IsHexText hex.toList

theorem spells_text (digest : ContentDigest) :
    Spells digest.algorithm digest.hex digest.text where
  text := rfl
  name := (isAlgorithm_iff _).mp digest.algorithm_valid
  value := (isHexValue_iff _).mp digest.hex_valid

theorem Spells.exists_digest {algorithm hex s : String} (spells : Spells algorithm hex s) :
    ∃ digest : ContentDigest,
      digest.algorithm = algorithm ∧ digest.hex = hex ∧ digest.text = s :=
  ⟨⟨algorithm, hex, (isAlgorithm_iff _).mpr spells.name, (isHexValue_iff _).mpr spells.value⟩,
    rfl, rfl, spells.text⟩

theorem exists_ok_iff_spelled (s : String) :
    (∃ digest, parse s = .ok digest) ↔ ∃ algorithm hex, Spells algorithm hex s := by
  simp only [parse_eq_ok_iff]
  constructor
  · intro read
    obtain ⟨digest, text⟩ := read
    exact ⟨_, _, text ▸ digest.spells_text⟩
  · intro spelled
    obtain ⟨_, _, spells⟩ := spelled
    obtain ⟨digest, -, -, text⟩ := spells.exists_digest
    exact ⟨digest, text⟩

theorem parse_eq_error_iff (s : String) (error : ReferenceError) :
    parse s = .error error ↔
      (∀ digest, parse s ≠ .ok digest) ∧ error = .invalidDigest s := by
  unfold parse
  cases ofChars? s.toList with
  | none => simp [eq_comm]
  | some digest => simp

theorem parse_eq_ok_iff_spelled (s : String) (digest : ContentDigest) :
    parse s = .ok digest ↔ ∃ algorithm hex, Spells algorithm hex s ∧
      digest.algorithm = algorithm ∧ digest.hex = hex ∧ digest.text = s := by
  rw [parse_eq_ok_iff]
  constructor
  · intro text
    subst text
    exact ⟨_, _, digest.spells_text, rfl, rfl, rfl⟩
  · intro spelled
    obtain ⟨_, _, -, -, -, text⟩ := spelled
    exact text

theorem parse_text_ofContent (content : List UInt8) :
    parse (ofContent content).text = .ok (ofContent content) ∧
      (ofContent content).algorithm = "sha256" ∧ (ofContent content).hex.length = 64 := by
  refine ⟨(parse_eq_ok_iff _ _).mpr rfl, rfl, ?_⟩
  have length := Sha256.length_digestHex content
  simpa [ofContent] using length

/-- A text is read as a digest exactly if it is spelled of an algorithm and a value. These are the
parts of the digest, its own text is the one that was read, and it cannot be spelled otherwise. Any
other text is named in the error. The digest of a content is written with 64 hexadecimal digits and
read back, with the same algorithm and value. -/
theorem parsed_iff_spelled :
    (∀ s : String,
      (∀ digest, parse s = .ok digest ↔ ∃ algorithm hex, Spells algorithm hex s ∧
        digest.algorithm = algorithm ∧ digest.hex = hex ∧ digest.text = s) ∧
      (∀ algorithm hex otherAlgorithm otherHex, Spells algorithm hex s →
        Spells otherAlgorithm otherHex s → algorithm = otherAlgorithm ∧ hex = otherHex) ∧
      ∀ error, parse s = .error error ↔
        (¬ ∃ algorithm hex, Spells algorithm hex s) ∧ error = .invalidDigest s) ∧
    ∀ content : List UInt8, parse (ofContent content).text = .ok (ofContent content) ∧
      (ofContent content).algorithm = "sha256" ∧ (ofContent content).hex.length = 64 := by
  refine ⟨fun s => ⟨parse_eq_ok_iff_spelled s, ?_, ?_⟩, parse_text_ofContent⟩
  · intro algorithm hex otherAlgorithm otherHex spells again
    obtain ⟨digest, rfl, rfl, text⟩ := spells.exists_digest
    obtain ⟨other, rfl, rfl, same⟩ := again.exists_digest
    obtain rfl : digest = other := text_injective (text.trans same.symm)
    exact ⟨rfl, rfl⟩
  · intro error
    rw [parse_eq_error_iff, ← exists_ok_iff_spelled, not_exists]

end ContainerStreams.ContentDigest
