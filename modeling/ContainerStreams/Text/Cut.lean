set_option autoImplicit false

namespace ContainerStreams.Text

/-- The part before the first separator, and the part after it if there is one. -/
def cut (separator : Char) : List Char → List Char × Option (List Char)
  | [] => ([], none)
  | c :: rest =>
    if c = separator then ([], some rest)
    else ((c :: (cut separator rest).1), (cut separator rest).2)

theorem cut_of_not_mem (separator : Char) (text : List Char) (absent : separator ∉ text) :
    cut separator text = (text, none) := by
  induction text with
  | nil => rfl
  | cons c rest ih =>
    simp only [List.mem_cons, not_or] at absent
    simp [cut, Ne.symm absent.1, ih absent.2]

theorem cut_append (separator : Char) (before after : List Char) (absent : separator ∉ before) :
    cut separator (before ++ separator :: after) = (before, some after) := by
  induction before with
  | nil => simp [cut]
  | cons c rest ih =>
    simp only [List.mem_cons, not_or] at absent
    simp [cut, Ne.symm absent.1, ih absent.2]

theorem not_mem_cut (separator : Char) (text : List Char) :
    separator ∉ (cut separator text).1 := by
  induction text with
  | nil => simp [cut]
  | cons c rest ih =>
    by_cases same : c = separator
    · simp [cut, same]
    · simp [cut, same, Ne.symm same, ih]

theorem eq_of_cut (separator : Char) (text before : List Char) (after : Option (List Char))
    (found : cut separator text = (before, after)) :
    text = before ++ (after.map (separator :: ·)).getD [] := by
  induction text generalizing before after with
  | nil =>
    simp only [cut, Prod.mk.injEq] at found
    simp [← found.1, ← found.2]
  | cons c rest ih =>
    by_cases same : c = separator
    · simp only [cut, same, ↓reduceIte, Prod.mk.injEq] at found
      simp [← found.1, ← found.2, same]
    · simp only [cut, same, ↓reduceIte, Prod.mk.injEq] at found
      rw [← found.1, ← found.2, List.cons_append, ← ih _ _ rfl]

theorem cut_of_eq (separator : Char) (before : List Char) (after : Option (List Char))
    (absent : separator ∉ before) :
    cut separator (before ++ (after.map (separator :: ·)).getD []) = (before, after) := by
  cases after with
  | none => simpa using cut_of_not_mem separator before absent
  | some rest => exact cut_append separator before rest absent

end ContainerStreams.Text
