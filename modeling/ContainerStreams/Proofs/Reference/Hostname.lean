import ContainerStreams.Proofs.Text.Grammar
import ContainerStreams.Reference.Registry

set_option autoImplicit false

namespace ContainerStreams.Registry

/-- Letters, digits and hyphens, with a hyphen at neither end. -/
structure IsLabel (label : List Char) : Prop where
  nonempty : label ≠ []
  chars : ∀ c ∈ label, Text.IsLetter c ∨ Text.IsDigit c ∨ c = '-'
  first : label.head? ≠ some '-'
  last : label.getLast? ≠ some '-'

/-- A domain is read label by label. -/
theorem readsDomain_append_dot (state : DomainState) (front rest : List Char) :
    readsDomain state (front ++ '.' :: rest) =
      (readsDomain state front && readsDomain .labelStart rest) := by
  induction front generalizing state with
  | nil => cases state <;> simp [readsDomain]
  | cons first front ih =>
    rw [List.cons_append, readsDomain, readsDomain]
    split_ifs <;> simp [ih, Bool.and_assoc]

def stateBehind (c : Char) : DomainState :=
  if c = '-' then .afterHyphen else .inLabel

theorem stateBehind_ne_labelStart (c : Char) : stateBehind c ≠ .labelStart := by
  unfold stateBehind
  split <;> decide

theorem stateBehind_of_isAlphanum {c : Char} (alphanum : c.isAlphanum = true) :
    stateBehind c = .inLabel := by
  refine if_neg fun hyphen => ?_
  subst hyphen
  cases alphanum

/-- Within a label, the state is that behind the last character. -/
theorem readsDomain_stateBehind_cons (c : Char) {next : Char} (rest : List Char)
    (within : next.isAlphanum = true ∨ next = '-') :
    readsDomain (stateBehind c) (next :: rest) = readsDomain (stateBehind next) rest := by
  rw [readsDomain]
  by_cases alphanum : next.isAlphanum = true
  · rw [if_pos alphanum, stateBehind_of_isAlphanum alphanum]
  · have hyphen := within.resolve_left alphanum
    rw [if_neg alphanum, if_neg (stateBehind_ne_labelStart c), if_pos hyphen, hyphen]
    rfl

/-- Nothing but a dot ends a label. -/
theorem eq_dot_of_readsDomain (c : Char) {next : Char} {rest : List Char}
    (outside : ¬ (next.isAlphanum = true ∨ next = '-'))
    (read : readsDomain (stateBehind c) (next :: rest) = true) : next = '.' := by
  obtain ⟨noAlphanum, noHyphen⟩ := not_or.mp outside
  rw [readsDomain, if_neg noAlphanum, if_neg (stateBehind_ne_labelStart c), if_neg noHyphen,
    Bool.and_eq_true, Bool.and_eq_true] at read
  exact of_decide_eq_true read.1.1

/-- Behind a character of a label there may be hyphens anywhere but at the end. -/
theorem readsDomain_stateBehind_iff (c : Char) (text : List Char) :
    readsDomain (stateBehind c) text = true ∧ '.' ∉ text ↔
      (∀ next ∈ text, next.isAlphanum = true ∨ next = '-') ∧ (c :: text).getLast? ≠ some '-' := by
  induction text generalizing c with
  | nil => by_cases hyphen : c = '-' <;> simp [readsDomain, stateBehind, hyphen]
  | cons next rest ih =>
    rw [List.getLast?_cons_cons, List.forall_mem_cons, List.mem_cons, not_or]
    by_cases within : next.isAlphanum = true ∨ next = '-'
    · have noDot : '.' ≠ next := by
        intro dot
        subst dot
        exact absurd within (by decide)
      rw [readsDomain_stateBehind_cons c rest within, and_iff_right noDot, ih,
        and_iff_right within]
    · refine iff_of_false ?_ ?_
      · intro read
        exact read.2.1 (eq_dot_of_readsDomain c within read.1).symm
      · intro all
        exact within all.1.1

theorem isDomain_cons (c : Char) (text : List Char) :
    isDomain (c :: text) = (c.isAlphanum && readsDomain (stateBehind c) text) := by
  rw [isDomain, readsDomain]
  by_cases alphanum : c.isAlphanum = true
  · rw [if_pos alphanum, alphanum, stateBehind_of_isAlphanum alphanum, Bool.true_and]
  · rw [if_neg alphanum, if_pos rfl, Bool.eq_false_iff.mpr alphanum, Bool.false_and]

/-- A label is a domain without a dot. -/
theorem isLabel_iff (label : List Char) :
    IsLabel label ↔ isDomain label = true ∧ ∀ c ∈ label, ¬ c = '.' := by
  have inLabel (c : Char) : (Text.IsLetter c ∨ Text.IsDigit c ∨ c = '-') ↔
      c.isAlphanum = true ∨ c = '-' := by
    rw [Text.isAlphanum_iff]
    exact or_assoc.symm
  cases label with
  | nil => exact iff_of_false (fun isLabel => isLabel.nonempty rfl) fun read => nomatch read.1
  | cons c text =>
    rw [isDomain_cons, Bool.and_eq_true, List.forall_mem_cons]
    constructor
    · intro isLabel
      have chars := isLabel.chars
      simp only [inLabel, List.forall_mem_cons] at chars
      have noHyphen : c ≠ '-' := fun hyphen => isLabel.first (congrArg some hyphen)
      have starts := chars.1.resolve_right noHyphen
      have noDot : c ≠ '.' := by
        intro dot
        subst dot
        cases starts
      obtain ⟨read, free⟩ := (readsDomain_stateBehind_iff c text).mpr ⟨chars.2, isLabel.last⟩
      exact ⟨⟨starts, read⟩, noDot, fun other member dot => free (dot ▸ member)⟩
    · intro undivided
      obtain ⟨⟨starts, read⟩, -, free⟩ := undivided
      have noDot : '.' ∉ text := fun member => free '.' member rfl
      obtain ⟨chars, last⟩ := (readsDomain_stateBehind_iff c text).mp ⟨read, noDot⟩
      have noHyphen : c ≠ '-' := by
        intro hyphen
        subst hyphen
        cases starts
      refine ⟨List.cons_ne_nil _ _, ?_, fun head => noHyphen (Option.some.inj head), last⟩
      simp only [inLabel, List.forall_mem_cons]
      exact ⟨.inl starts, chars⟩

theorem isDomain_iff (domain : List Char) :
    isDomain domain = true ↔ Text.Joined (· = '.') IsLabel domain := by
  apply Text.reads_iff_joined
  · intro front c rest dot
    subst dot
    exact readsDomain_append_dot .labelStart front rest
  · exact isLabel_iff

/-- A port is told by its number. -/
theorem isPort_iff (digits : List Char) :
    isPort digits = true ↔ ∃ n ≤ 65535, Text.IsNumeral n digits := by
  simp only [Text.isNumeral_iff]
  simpa [isPort] using and_comm

structure Spells (domain : String) (port : Option String) (s : String) : Prop where
  text : domain ++ (port.map (":" ++ ·)).getD "" = s
  labels : Text.Joined (· = '.') IsLabel domain.toList
  number : ∀ digits ∈ port, ∃ n ≤ 65535, Text.IsNumeral n digits.toList

theorem text_eq (registry : Registry) :
    registry.domain ++ (registry.portDigits.map (":" ++ ·)).getD "" = registry.text := by
  unfold text
  cases registry.portDigits with
  | none => exact String.append_empty
  | some digits => exact String.append_assoc.symm

theorem spells_text (registry : Registry) :
    Spells registry.domain registry.portDigits registry.text where
  text := registry.text_eq
  labels := (isDomain_iff _).mp registry.domain_valid
  number := fun digits written => (isPort_iff _).mp (registry.port_valid digits written)

theorem Spells.exists_registry {domain s : String} {port : Option String}
    (spells : Spells domain port s) :
    ∃ registry : Registry,
      registry.domain = domain ∧ registry.portDigits = port ∧ registry.text = s := by
  let registry : Registry := ⟨domain, port, (isDomain_iff _).mpr spells.labels,
    fun digits written => (isPort_iff _).mpr (spells.number digits written)⟩
  exact ⟨registry, rfl, rfl, registry.text_eq.symm.trans spells.text⟩

theorem portNumber_eq_some_iff (registry : Registry) (n : Nat) :
    registry.portNumber = some n ↔ ∃ digits ∈ registry.portDigits,
      Text.IsNumeral n digits.toList := by
  unfold portNumber
  rw [Option.map_eq_some_iff]
  refine exists_congr fun digits => and_congr_right fun written => ?_
  obtain ⟨_, -, numeral⟩ := (isPort_iff _).mp (registry.port_valid digits written)
  rw [Text.isNumeral_iff, and_iff_right ((Text.isNumeral_iff _ _).mp numeral).1]

theorem parse_eq_ok_iff_spelled (s : String) (registry : Registry) :
    parse s = .ok registry ↔ ∃ domain port, Spells domain port s ∧ registry.text = s ∧
      registry.domain = domain ∧
      ∀ n, registry.portNumber = some n ↔ ∃ digits ∈ port, Text.IsNumeral n digits.toList := by
  rw [parse_eq_ok_iff]
  constructor
  · intro text
    subst text
    exact ⟨_, _, registry.spells_text, rfl, rfl, registry.portNumber_eq_some_iff⟩
  · intro spelled
    obtain ⟨_, _, -, text, -⟩ := spelled
    exact text

theorem exists_ok_iff_spelled (s : String) :
    (∃ registry, parse s = .ok registry) ↔ ∃ domain port, Spells domain port s := by
  simp only [parse_eq_ok_iff]
  constructor
  · intro read
    obtain ⟨registry, text⟩ := read
    exact ⟨_, _, text ▸ registry.spells_text⟩
  · intro spelled
    obtain ⟨_, _, spells⟩ := spelled
    obtain ⟨registry, -, -, text⟩ := spells.exists_registry
    exact ⟨registry, text⟩

theorem parse_eq_error_iff (s : String) (error : ReferenceError) :
    parse s = .error error ↔
      (∀ registry, parse s ≠ .ok registry) ∧ error = .invalidReference s := by
  unfold parse
  cases ofChars? s.toList with
  | none => simp [eq_comm]
  | some registry => simp

/-- A text is read as a registry exactly if it is spelled of a domain with or without a port. The
registry is then written as this text, with the same domain, and has a port number exactly if there
is a port, the one that its digits are a numeral of. The text cannot be spelled otherwise. Any other
text is named in the error. -/
theorem parsed_iff_hostname (s : String) :
    (∀ registry, parse s = .ok registry ↔ ∃ domain port, Spells domain port s ∧
      registry.text = s ∧ registry.domain = domain ∧
      ∀ n, registry.portNumber = some n ↔ ∃ digits ∈ port, Text.IsNumeral n digits.toList) ∧
    (∀ domain port otherDomain otherPort, Spells domain port s →
      Spells otherDomain otherPort s → domain = otherDomain ∧ port = otherPort) ∧
    ∀ error, parse s = .error error ↔
      (¬ ∃ domain port, Spells domain port s) ∧ error = .invalidReference s := by
  refine ⟨parse_eq_ok_iff_spelled s, ?_, ?_⟩
  · intro domain port otherDomain otherPort spells again
    obtain ⟨registry, rfl, rfl, text⟩ := spells.exists_registry
    obtain ⟨other, rfl, rfl, same⟩ := again.exists_registry
    obtain rfl : registry = other := text_injective (text.trans same.symm)
    exact ⟨rfl, rfl⟩
  · intro error
    rw [parse_eq_error_iff, ← exists_ok_iff_spelled, not_exists]

end ContainerStreams.Registry
