/-!
Lower case as far as it can spell an ASCII word. Beside `A` to `Z` only two characters have a
lower-case form with an ASCII letter in it: the Kelvin sign, and the capital I with a dot above,
whose form is two characters long. Every other character is left as it is.
-/

set_option autoImplicit false

namespace ContainerStreams.Text

def lowerChar (c : Char) : List Char :=
  match c with
  | '\u212a' => ['k']
  | '\u0130' => ['i', '\u0307']
  | c => [c.toLower]

def lowered (text : List Char) : List Char :=
  text.flatMap lowerChar

def occursIn (word : List Char) : List Char → Bool
  | [] => word.isEmpty
  | c :: rest => word.isPrefixOf (c :: rest) || occursIn word rest

/-- Whether `word`, given in lower case, stands in the text in letters of either case. -/
def mentions (text word : String) : Bool :=
  occursIn word.toList (lowered text.toList)

theorem occursIn_iff (word text : List Char) :
    occursIn word text = true ↔ ∃ before after, text = before ++ word ++ after := by
  induction text with
  | nil => simp [occursIn, List.isEmpty_iff]
  | cons c rest ih =>
    simp only [occursIn, Bool.or_eq_true, List.isPrefixOf_iff_prefix, ih]
    constructor
    · rintro (⟨after, found⟩ | ⟨before, after, found⟩)
      · exact ⟨[], after, by simpa using found.symm⟩
      · exact ⟨c :: before, after, by simp [found]⟩
    · rintro ⟨before, after, found⟩
      cases before with
      | nil => exact Or.inl ⟨after, by simpa using found.symm⟩
      | cons b before =>
        simp only [List.cons_append, List.cons.injEq] at found
        exact Or.inr ⟨before, after, by simp [found.2]⟩

end ContainerStreams.Text
