import ContainerStreams.Digest.Basic
import ContainerStreams.Text.Cut
import ContainerStreams.Text.Decimal

set_option autoImplicit false

namespace ContainerStreams

namespace Registry

inductive DomainState where
  | labelStart
  | inLabel
  | afterHyphen
  deriving DecidableEq, Repr

/-- Labels of letters, digits and inner hyphens, joined by single dots. -/
def readsDomain (state : DomainState) : List Char → Bool
  | [] => state = .inLabel
  | c :: rest =>
    if c.isAlphanum then readsDomain .inLabel rest
    else if state = .labelStart then false
    else if c = '-' then readsDomain .afterHyphen rest
    else c = '.' && state = .inLabel && readsDomain .labelStart rest

def isDomain (domain : List Char) : Bool :=
  readsDomain .labelStart domain

/-- One or more digits of a port number. Leading zeros are allowed, however many. -/
def isPort (digits : List Char) : Bool :=
  !digits.isEmpty && digits.all Char.isDigit && Text.decimalValue digits ≤ 65535

end Registry

/-- The digits of the port number are kept as written: with `080` a registry has another name than
with `80`, although both are the same number. -/
structure Registry where
  domain : String
  portDigits : Option String
  domain_valid : Registry.isDomain domain.toList = true
  port_valid : ∀ digits ∈ portDigits, Registry.isPort digits.toList = true
  deriving DecidableEq

namespace Registry

def portNumber (registry : Registry) : Option Nat :=
  registry.portDigits.map fun digits => Text.decimalValue digits.toList

def text (registry : Registry) : String :=
  match registry.portDigits with
  | none => registry.domain
  | some digits => registry.domain ++ ":" ++ digits

instance : Ord Registry := ⟨fun a b => compare a.text b.text⟩

def ofParts? (domain : List Char) (portDigits : Option (List Char)) : Option Registry :=
  if valid : isDomain domain = true ∧ ∀ digits ∈ portDigits, isPort digits = true then
    some ⟨String.ofList domain, portDigits.map String.ofList, by simpa using valid.1, by
      simpa using valid.2⟩
  else none

/-- A domain has no colon in it, so the first one begins the port number. -/
def ofChars? (text : List Char) : Option Registry :=
  let (domain, portDigits) := Text.cut ':' text
  ofParts? domain portDigits

def parse (s : String) : Except ReferenceError Registry :=
  match ofChars? s.toList with
  | some registry => .ok registry
  | none => .error (.invalidReference s)

theorem domain_char_of_readsDomain (state : DomainState) (domain : List Char)
    (read : readsDomain state domain = true) (c : Char) (member : c ∈ domain) :
    c.isAlphanum = true ∨ c = '-' ∨ c = '.' := by
  induction domain generalizing state with
  | nil => cases member
  | cons first rest ih =>
    unfold readsDomain at read
    split at read
    · rename_i alphanum
      rcases List.mem_cons.mp member with rfl | later
      · exact Or.inl alphanum
      · exact ih _ read later
    · split at read
      · cases read
      · split at read
        · rename_i hyphen
          rcases List.mem_cons.mp member with rfl | later
          · exact Or.inr (Or.inl hyphen)
          · exact ih _ read later
        · simp only [Bool.and_eq_true, decide_eq_true_eq] at read
          rcases List.mem_cons.mp member with rfl | later
          · exact Or.inr (Or.inr read.1.1)
          · exact ih _ read.2 later

theorem colon_not_mem_of_readsDomain (state : DomainState) (domain : List Char)
    (read : readsDomain state domain = true) : ':' ∉ domain := fun member =>
  absurd (domain_char_of_readsDomain state domain read ':' member) (by decide)

theorem slash_not_mem_text (registry : Registry) : '/' ∉ registry.text.toList := by
  obtain ⟨domain, portDigits, domain_valid, port_valid⟩ := registry
  have outside : '/' ∉ domain.toList := fun member =>
    absurd (domain_char_of_readsDomain .labelStart _ domain_valid '/' member) (by decide)
  cases portDigits with
  | none => exact outside
  | some digits =>
    have valid := port_valid digits rfl
    simp only [isPort, Bool.and_eq_true, List.all_eq_true] at valid
    have noDigit : '/' ∉ digits.toList := fun member => absurd (valid.1.2 '/' member) (by decide)
    simp [text, outside, noDigit]

theorem text_ne_empty (registry : Registry) : registry.text ≠ "" := by
  obtain ⟨domain, portDigits, domain_valid, port_valid⟩ := registry
  have named : domain ≠ "" := by
    rintro rfl
    simp [isDomain, readsDomain] at domain_valid
  cases portDigits with
  | none => exact named
  | some digits => simp [text, named]

theorem ofChars?_text (registry : Registry) : ofChars? registry.text.toList = some registry := by
  obtain ⟨domain, portDigits, domain_valid, port_valid⟩ := registry
  have absent := colon_not_mem_of_readsDomain .labelStart _ domain_valid
  cases portDigits with
  | none => simp [ofChars?, text, Text.cut_of_not_mem ':' _ absent, ofParts?, domain_valid]
  | some digits =>
    have parts : (domain ++ ":" ++ digits).toList = domain.toList ++ ':' :: digits.toList := by
      simp
    have valid := port_valid digits rfl
    simp [ofChars?, text, parts, Text.cut_append ':' _ _ absent, ofParts?, domain_valid, valid]

theorem text_ofParts? {domain : List Char} {portDigits : Option (List Char)} {registry : Registry}
    (made : ofParts? domain portDigits = some registry) :
    registry.text.toList = domain ++ (portDigits.map (':' :: ·)).getD [] := by
  unfold ofParts? at made
  split at made
  · cases made
    cases portDigits <;> simp [text]
  · cases made

theorem text_of_ofChars? {s : List Char} {registry : Registry}
    (read : ofChars? s = some registry) : registry.text.toList = s :=
  (text_ofParts? read).trans (Text.eq_of_cut ':' s _ _ rfl).symm

theorem text_injective {a b : Registry} (same : a.text = b.text) : a = b := by
  have read := ofChars?_text a
  rw [same, ofChars?_text b] at read
  exact (Option.some.inj read).symm

theorem parse_eq_ok_iff (s : String) (registry : Registry) :
    parse s = .ok registry ↔ registry.text = s := by
  constructor
  · intro parses
    unfold parse at parses
    split at parses
    · rename_i read
      cases parses
      exact String.toList_injective (text_of_ofChars? read)
    · cases parses
  · rintro rfl
    rw [parse, ofChars?_text]

/-- Whether the first component of a path, when more of the path follows, is taken for a registry
rather than for a part of the repository. -/
def looksLikeRegistry (component : List Char) : Bool :=
  component.contains '.' || component.contains ':' || component = "localhost".toList

end Registry

end ContainerStreams
