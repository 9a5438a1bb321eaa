import ContainerStreams.Reference.Basic

set_option autoImplicit false

namespace ContainerStreams.ImageReference

inductive PathState where
  | componentStart
  | inRun
  | afterDot
  | afterUnderscore
  | afterUnderscores
  | afterHyphen
  deriving DecidableEq, Repr

def isRunChar (c : Char) : Bool :=
  c.isDigit || c.isLower

/-- Components joined by slashes, each of them runs joined by a dot, by one or two underscores, or
by any number of hyphens. -/
def readsPath (state : PathState) : List Char → Bool
  | [] => state = .inRun
  | c :: rest =>
    if isRunChar c then readsPath .inRun rest
    else match state, c with
      | .inRun, '.' => readsPath .afterDot rest
      | .inRun, '_' => readsPath .afterUnderscore rest
      | .inRun, '-' => readsPath .afterHyphen rest
      | .inRun, '/' => readsPath .componentStart rest
      | .afterUnderscore, '_' => readsPath .afterUnderscores rest
      | .afterHyphen, '-' => readsPath .afterHyphen rest
      | _, _ => false

def isPath (path : List Char) : Bool :=
  readsPath .componentStart path

def isTagStart (c : Char) : Bool :=
  c.isAlphanum || c = '_'

def isTagChar (c : Char) : Bool :=
  isTagStart c || c = '.' || c = '-'

/-- At most 128 characters, the first of them neither a dot nor a hyphen. -/
def isTag : List Char → Bool
  | [] => false
  | c :: rest => isTagStart c && rest.all isTagChar && rest.length ≤ 127

def isDigest (text : List Char) : Bool :=
  (ContentDigest.ofChars? text).isSome

/-- The reference with the given registry whose other parts stand in `text`. It is cut at its first
at-sign and then at the first colon before that, as neither can occur in a part to its left. -/
def ofUnhosted? (registry : Option Registry) (text : List Char) : Option ImageReference :=
  let (front, imageId) := Text.cut '@' text
  let (path, tag) := Text.cut ':' front
  if isPath path && tag.all isTag && imageId.all isDigest then
    let (project, name) := match Text.cut '/' path with
      | (name, none) => (none, name)
      | (project, some name) => (some (String.ofList project), name)
    some {
      registry, project
      name := String.ofList name
      tag := tag.map String.ofList
      imageId := imageId.map String.ofList }
  else none

def ofChars? (text : List Char) : Option ImageReference :=
  match Text.cut '/' text with
  | (host, some rest) =>
    if Registry.looksLikeRegistry host then
      (Registry.ofChars? host).bind fun registry => ofUnhosted? (some registry) rest
    else ofUnhosted? none text
  | (_, none) => ofUnhosted? none text

/-- A failure names the whole text, also when only its registry is at fault. -/
def parse (s : String) : Except ReferenceError ImageReference :=
  match ofChars? s.toList with
  | some reference => .ok reference
  | none => .error (.invalidReference s)

end ContainerStreams.ImageReference
