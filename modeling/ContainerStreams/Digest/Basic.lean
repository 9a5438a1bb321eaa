import ContainerStreams.Json.Basic
import ContainerStreams.Text.Cut
import ContainerStreams.Text.Quoted

set_option autoImplicit false

namespace ContainerStreams

/-- Why a text is no reference, registry or digest. The whole offending text is kept. -/
inductive ReferenceError where
  | invalidReference (text : String)
  | invalidDigest (text : String)
  deriving DecidableEq, Repr

def ReferenceError.message : ReferenceError → String
  | .invalidReference text => "invalid image reference format: " ++ Text.quoted text
  | .invalidDigest text => "invalid content digest format: " ++ Text.quoted text

namespace ContentDigest

def isAlgorithmSeparator (c : Char) : Bool :=
  c = '-' || c = '_' || c = '+' || c = '.'

def isHexDigit (c : Char) : Bool :=
  c.isDigit || ('a' ≤ c && c ≤ 'f')

/-- Reads an algorithm's name letter by letter; `inWord` tells a word that has begun from one
whose first letter is still to come. -/
def readsAlgorithm (inWord : Bool) : List Char → Bool
  | [] => inWord
  | c :: rest =>
    if inWord then
      if isAlgorithmSeparator c then readsAlgorithm false rest
      else c.isAlphanum && readsAlgorithm true rest
    else c.isAlpha && readsAlgorithm true rest

def isAlgorithm (name : List Char) : Bool :=
  readsAlgorithm false name

def isHexValue (digits : List Char) : Bool :=
  32 ≤ digits.length && digits.all isHexDigit

end ContentDigest

/-- A digest is written `algorithm:hex`. An algorithm is one or more words joined by a single
separator, and the value has at least 32 digits. Images are named by the digest of their manifest,
so a digest is also the identity of an image record. -/
structure ContentDigest where
  algorithm : String
  hex : String
  algorithm_valid : ContentDigest.isAlgorithm algorithm.toList = true
  hex_valid : ContentDigest.isHexValue hex.toList = true
  deriving DecidableEq, Repr

namespace ContentDigest

def text (digest : ContentDigest) : String :=
  digest.algorithm ++ ":" ++ digest.hex

instance : Ord ContentDigest := ⟨fun a b => compare a.text b.text⟩

def ofParts? (algorithm hex : List Char) : Option ContentDigest :=
  if valid : isAlgorithm algorithm = true ∧ isHexValue hex = true then
    some ⟨String.ofList algorithm, String.ofList hex,
      by simpa using valid.1, by simpa using valid.2⟩
  else none

/-- Neither part of a digest has a colon in it, so the first one separates them. -/
def ofChars? (text : List Char) : Option ContentDigest :=
  match Text.cut ':' text with
  | (algorithm, some hex) => ofParts? algorithm hex
  | (_, none) => none

def parse (s : String) : Except ReferenceError ContentDigest :=
  match ofChars? s.toList with
  | some digest => .ok digest
  | none => .error (.invalidDigest s)

/-- An image id may be abbreviated to any first part of the digest or of its hex value. -/
def matchesId (digest : ContentDigest) (imageId : String) : Bool :=
  !imageId.isEmpty &&
    (imageId.toList.isPrefixOf digest.hex.toList || imageId.toList.isPrefixOf digest.text.toList)

theorem colon_not_mem_of_readsAlgorithm (inWord : Bool) (name : List Char)
    (read : readsAlgorithm inWord name = true) : ':' ∉ name := by
  induction name generalizing inWord with
  | nil => simp
  | cons c rest ih =>
    have different : ':' ≠ c := by
      rintro rfl
      cases inWord <;> simp [readsAlgorithm, isAlgorithmSeparator] at read
    cases inWord with
    | false =>
      simp only [readsAlgorithm, Bool.false_eq_true, ↓reduceIte, Bool.and_eq_true] at read
      exact List.not_mem_cons_of_ne_of_not_mem different (ih true read.2)
    | true =>
      simp only [readsAlgorithm, ↓reduceIte] at read
      split at read
      · exact List.not_mem_cons_of_ne_of_not_mem different (ih false read)
      · simp only [Bool.and_eq_true] at read
        exact List.not_mem_cons_of_ne_of_not_mem different (ih true read.2)

theorem ofChars?_text (digest : ContentDigest) : ofChars? digest.text.toList = some digest := by
  have absent := colon_not_mem_of_readsAlgorithm false _ digest.algorithm_valid
  have parts : digest.text.toList = digest.algorithm.toList ++ ':' :: digest.hex.toList := by
    simp [text]
  rw [ofChars?, parts, Text.cut_append ':' _ _ absent]
  simp [ofParts?, digest.algorithm_valid, digest.hex_valid]

theorem text_ofParts? {algorithm hex : List Char} {digest : ContentDigest}
    (made : ofParts? algorithm hex = some digest) :
    digest.text.toList = algorithm ++ ':' :: hex := by
  unfold ofParts? at made
  split at made
  · cases made
    simp [text]
  · cases made

theorem text_of_ofChars? {s : List Char} {digest : ContentDigest}
    (read : ofChars? s = some digest) : digest.text.toList = s := by
  unfold ofChars? at read
  split at read
  · rename_i algorithm hex found
    rw [text_ofParts? read, Text.eq_of_cut ':' s _ _ found]
    rfl
  · cases read

theorem text_injective {a b : ContentDigest} (same : a.text = b.text) : a = b := by
  have read := ofChars?_text a
  rw [same, ofChars?_text b] at read
  exact (Option.some.inj read).symm

theorem parse_eq_ok_iff (s : String) (digest : ContentDigest) :
    parse s = .ok digest ↔ digest.text = s := by
  constructor
  · intro parses
    unfold parse at parses
    split at parses
    · rename_i read
      cases parses
      exact String.toList_injective (text_of_ofChars? read)
    · cases parses
  · rintro rfl
    rw [parse, ofChars?_text]

def ofJson? (value : Json) : Option ContentDigest :=
  value.text?.bind fun text => ofChars? text.toList

def toJson (digest : ContentDigest) : Json :=
  .string digest.text

end ContentDigest

/-- Whether a recorded image name answers to an image id. Names are normally digests; any other
name must begin with the id. -/
def imageMatchesId (image imageId : String) : Bool :=
  match ContentDigest.ofChars? image.toList with
  | some digest => digest.matchesId imageId
  | none => !imageId.isEmpty && imageId.toList.isPrefixOf image.toList

end ContainerStreams
