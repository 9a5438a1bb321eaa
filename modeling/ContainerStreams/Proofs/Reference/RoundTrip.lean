import ContainerStreams.Reference.Defaults
import ContainerStreams.Reference.Parser

/-!
Which references are read back from their text. A separator never occurs to its own left, and the
first component tells whether it is a registry, so that a text is taken apart where it was put
together. Main statements: a text is read as a reference exactly if the reference is readable and
has this text; what has been read is read back from its text, also with its tag and image id dropped
or with a digest in their place; putting a readable reference into the library project leaves it
readable.
-/

set_option autoImplicit false

namespace ContainerStreams

namespace ContentDigest

theorem char_of_readsAlgorithm (inWord : Bool) (name : List Char)
    (read : readsAlgorithm inWord name = true) (c : Char) (member : c ∈ name) :
    c.isAlphanum = true ∨ isAlgorithmSeparator c = true := by
  induction name generalizing inWord with
  | nil => cases member
  | cons first rest ih =>
    cases inWord with
    | false =>
      simp only [readsAlgorithm, Bool.false_eq_true, ↓reduceIte, Bool.and_eq_true] at read
      rcases List.mem_cons.mp member with rfl | later
      · exact Or.inl (by rw [Char.isAlphanum, read.1, Bool.true_or])
      · exact ih true read.2 later
    | true =>
      simp only [readsAlgorithm, ↓reduceIte] at read
      split at read
      · rename_i separates
        rcases List.mem_cons.mp member with rfl | later
        · exact Or.inr separates
        · exact ih false read later
      · simp only [Bool.and_eq_true] at read
        rcases List.mem_cons.mp member with rfl | later
        · exact Or.inl read.1
        · exact ih true read.2 later

theorem isHexDigit_of_mem_hex (digest : ContentDigest) (c : Char)
    (member : c ∈ digest.hex.toList) : isHexDigit c = true := by
  have valid := digest.hex_valid
  simp only [isHexValue, Bool.and_eq_true, List.all_eq_true] at valid
  exact valid.2 c member

theorem slash_not_mem_text (digest : ContentDigest) : '/' ∉ digest.text.toList := by
  have parts : digest.text.toList = digest.algorithm.toList ++ ':' :: digest.hex.toList := by
    simp [text]
  rw [parts, List.mem_append, List.mem_cons]
  rintro (inAlgorithm | same | inHex)
  · exact absurd (char_of_readsAlgorithm false _ digest.algorithm_valid '/' inAlgorithm) (by decide)
  · exact absurd same (by decide)
  · exact absurd (digest.isHexDigit_of_mem_hex '/' inHex) (by decide)

end ContentDigest

namespace ImageReference

/-- The state after one character of a path, unless the character cannot stand there. -/
def nextState? (state : PathState) (c : Char) : Option PathState :=
  if isRunChar c then some .inRun
  else match state, c with
    | .inRun, '.' => some .afterDot
    | .inRun, '_' => some .afterUnderscore
    | .inRun, '-' => some .afterHyphen
    | .inRun, '/' => some .componentStart
    | .afterUnderscore, '_' => some .afterUnderscores
    | .afterHyphen, '-' => some .afterHyphen
    | _, _ => none

theorem readsPath_cons (state : PathState) (c : Char) (rest : List Char) :
    readsPath state (c :: rest) = (nextState? state c).elim false (readsPath · rest) := by
  fun_cases nextState? state c <;> simp_all [readsPath]

/-- Outside the runs there are only the four joints. -/
theorem char_of_nextState? {state next : PathState} {c : Char}
    (found : nextState? state c = some next) :
    isRunChar c = true ∨ c = '.' ∨ c = '_' ∨ c = '-' ∨ c = '/' := by
  unfold nextState? at found
  split at found
  · rename_i run
    exact Or.inl run
  · split at found <;> simp_all

theorem char_of_readsPath (state : PathState) (path : List Char)
    (read : readsPath state path = true) (c : Char) (member : c ∈ path) :
    isRunChar c = true ∨ c = '.' ∨ c = '_' ∨ c = '-' ∨ c = '/' := by
  induction path generalizing state with
  | nil => cases member
  | cons first rest ih =>
    rw [readsPath_cons] at read
    cases found : nextState? state first with
    | none =>
      rw [found] at read
      cases read
    | some next =>
      rw [found] at read
      rcases List.mem_cons.mp member with rfl | later
      · exact char_of_nextState? found
      · exact ih next read later

/-- A path is read component by component. -/
theorem readsPath_append_slash (state : PathState) (front rest : List Char) :
    readsPath state (front ++ '/' :: rest) =
      (readsPath state front && readsPath .componentStart rest) := by
  induction front generalizing state with
  | nil => cases state <;> rfl
  | cons first others ih =>
    rw [List.cons_append, readsPath_cons, readsPath_cons]
    cases nextState? state first with
    | none => rfl
    | some next => exact ih next

theorem isPath_append_slash (front rest : List Char) :
    isPath (front ++ '/' :: rest) = (isPath front && isPath rest) :=
  readsPath_append_slash .componentStart front rest

theorem isTagChar_of_isTag (tag : List Char) (valid : isTag tag = true) (c : Char)
    (member : c ∈ tag) : isTagChar c = true := by
  cases tag with
  | nil => cases member
  | cons first rest =>
    simp only [isTag, Bool.and_eq_true, List.all_eq_true] at valid
    rcases List.mem_cons.mp member with rfl | later
    · rw [isTagChar, valid.1.1, Bool.true_or, Bool.true_or]
    · exact valid.1.2 c later

theorem slash_not_mem_of_isDigest (text : List Char) (valid : isDigest text = true) :
    '/' ∉ text := by
  obtain ⟨digest, read⟩ := Option.isSome_iff_exists.mp valid
  rw [← ContentDigest.text_of_ofChars? read]
  exact digest.slash_not_mem_text

/-- The parts of a reference, whatever its registry, are such as can be told apart in a text. -/
structure Parted (reference : ImageReference) : Prop where
  path : isPath reference.repositoryPath.toList = true
  front : '/' ∉ (reference.project.getD reference.name).toList
  tag : ∀ tag ∈ reference.tag, isTag tag.toList = true
  imageId : ∀ imageId ∈ reference.imageId, isDigest imageId.toList = true

/-- The first component of the text is taken for what it is: for the registry if there is one, and
otherwise for a part of the path. -/
structure Readable (reference : ImageReference) : Prop extends Parted reference where
  hosted : ∀ registry ∈ reference.registry,
    Registry.looksLikeRegistry registry.text.toList = true
  unhosted : reference.registry = none → ∀ project ∈ reference.project,
    Registry.looksLikeRegistry project.toList = false

/-- What stands before the image id in a reference without a registry. -/
def frontText (reference : ImageReference) : List Char :=
  reference.repositoryPath.toList ++
    ((reference.tag.map String.toList).map (':' :: ·)).getD []

def unhostedText (reference : ImageReference) : List Char :=
  reference.frontText ++ ((reference.imageId.map String.toList).map ('@' :: ·)).getD []

theorem toList_text (reference : ImageReference) : reference.text.toList =
    ((reference.registry.map (·.text.toList ++ ['/'])).getD []) ++ reference.unhostedText := by
  obtain ⟨registry, project, name, tag, imageId⟩ := reference
  cases registry <;> cases tag <;> cases imageId <;>
    simp [text, unhostedText, frontText, repositoryPath]

namespace Parted

variable {reference : ImageReference} (parted : reference.Parted)
include parted

theorem not_mem_path {separator : Char} (noRun : isRunChar separator = false)
    (noJoint : separator ≠ '.' ∧ separator ≠ '_' ∧ separator ≠ '-' ∧ separator ≠ '/') :
    separator ∉ reference.repositoryPath.toList := by
  intro member
  have possible := char_of_readsPath .componentStart _ parted.path separator member
  simp [noRun, noJoint] at possible

/-- Neither the colon before a tag nor a character of the tag is another separator. -/
theorem not_mem_tagText {separator : Char}
    (outside : separator ≠ ':' ∧ isTagChar separator = false) :
    separator ∉ ((reference.tag.map String.toList).map (':' :: ·)).getD [] := by
  intro member
  cases tagged : reference.tag with
  | none => simp [tagged] at member
  | some tag =>
    simp only [tagged, Option.map_some, Option.getD_some, List.mem_cons] at member
    have inTag := member.resolve_left outside.1
    have valid := isTagChar_of_isTag _ (parted.tag tag tagged) separator inTag
    rw [outside.2] at valid
    cases valid

theorem at_not_mem_frontText : '@' ∉ reference.frontText := by
  rw [frontText, List.mem_append]
  rintro (inPath | inTag)
  · exact parted.not_mem_path (by decide) (by decide) inPath
  · exact parted.not_mem_tagText (by decide) inTag

theorem cut_unhostedText : Text.cut '@' reference.unhostedText =
    (reference.frontText, reference.imageId.map String.toList) :=
  Text.cut_of_eq '@' _ _ parted.at_not_mem_frontText

theorem cut_frontText : Text.cut ':' reference.frontText =
    (reference.repositoryPath.toList, reference.tag.map String.toList) :=
  Text.cut_of_eq ':' _ _ (parted.not_mem_path (by decide) (by decide))

theorem cut_path : Text.cut '/' reference.repositoryPath.toList =
    match reference.project with
    | some project => (project.toList, some reference.name.toList)
    | none => (reference.name.toList, none) := by
  have front := parted.front
  unfold repositoryPath
  cases named : reference.project with
  | none =>
    rw [named] at front
    exact Text.cut_of_not_mem '/' _ front
  | some project =>
    rw [named] at front
    simpa using Text.cut_append '/' project.toList reference.name.toList front

/-- Whatever follows the registry is read back. -/
theorem ofUnhosted?_unhostedText (registry : Option Registry) :
    ofUnhosted? registry reference.unhostedText = some { reference with registry } := by
  have valid : (isPath reference.repositoryPath.toList &&
      (reference.tag.map String.toList).all isTag &&
      (reference.imageId.map String.toList).all isDigest) = true := by
    have tag := parted.tag
    have imageId := parted.imageId
    simp_all [parted.path, Option.all_eq_true]
  simp only [ofUnhosted?, parted.cut_unhostedText, parted.cut_frontText, valid, parted.cut_path]
  cases reference.project <;> simp [Function.comp_def]

end Parted

/-- The parts that are read make up the text they are read from. -/
theorem parted_of_ofUnhosted? {registry : Option Registry} {text : List Char}
    {reference : ImageReference} (read : ofUnhosted? registry text = some reference) :
    reference.registry = registry ∧ reference.Parted ∧ reference.unhostedText = text := by
  unfold ofUnhosted? at read
  cases atSign : Text.cut '@' text with
  | mk front imageId =>
    cases colon : Text.cut ':' front with
    | mk path tag =>
      cases slash : Text.cut '/' path with
      | mk first others =>
        simp only [atSign, colon, slash] at read
        split at read
        · rename_i valid
          simp only [Bool.and_eq_true, Option.all_eq_true] at valid
          have whole := Text.eq_of_cut '/' path _ _ slash
          have free : '/' ∉ first := by simpa [slash] using Text.not_mem_cut '/' path
          have made : reference.registry = registry ∧ reference.repositoryPath.toList = path ∧
              (reference.project.getD reference.name).toList = first ∧
              reference.tag.map String.toList = tag ∧
              reference.imageId.map String.toList = imageId := by
            cases others <;> cases read <;> simp [repositoryPath, whole, Function.comp_def]
          obtain ⟨sameRegistry, samePath, sameFront, sameTag, sameId⟩ := made
          refine ⟨sameRegistry, ⟨?_, ?_, ?_, ?_⟩, ?_⟩
          · rw [samePath]
            exact valid.1.1
          · rw [sameFront]
            exact free
          · intro own tagged
            exact valid.1.2 own.toList (by simp [← sameTag, Option.mem_def.mp tagged])
          · intro own pinned
            exact valid.2 own.toList (by simp [← sameId, Option.mem_def.mp pinned])
          · rw [unhostedText, frontText, samePath, sameTag, sameId,
              ← Text.eq_of_cut ':' front _ _ colon, ← Text.eq_of_cut '@' text _ _ atSign]
        · cases read

namespace Parted

variable {reference : ImageReference} (parted : reference.Parted)
include parted

/-- Behind a project there is always more of the path. -/
theorem cut_slash_of_project {project : String} (named : reference.project = some project) :
    ∃ rest, Text.cut '/' reference.unhostedText = (project.toList, some rest) := by
  have front := parted.front
  rw [named, Option.getD_some] at front
  simp only [unhostedText, frontText, repositoryPath, named, String.toList_append,
    List.append_assoc]
  exact ⟨_, Text.cut_append '/' project.toList _ front⟩

/-- Nothing in a text with a single name may be taken for a registry. -/
theorem cut_slash_of_single (single : reference.project = none) :
    Text.cut '/' reference.unhostedText = (reference.unhostedText, none) := by
  apply Text.cut_of_not_mem
  have front := parted.front
  rw [single, Option.getD_none] at front
  simp only [unhostedText, frontText, repositoryPath, single, List.mem_append]
  rintro ((inName | inTag) | inId)
  · exact front inName
  · exact parted.not_mem_tagText (by decide) inTag
  · cases pinned : reference.imageId with
    | none => simp [pinned] at inId
    | some imageId =>
      simp only [pinned, Option.map_some, Option.getD_some, List.mem_cons] at inId
      exact slash_not_mem_of_isDigest _ (parted.imageId imageId pinned)
        (inId.resolve_left (by decide))

end Parted

/-- What is read without a registry must not look as if it had one. -/
theorem readable_of_unhosted {text : List Char} {reference : ImageReference}
    (read : ofUnhosted? none text = some reference)
    (unlike : ∀ host rest, Text.cut '/' text = (host, some rest) →
      Registry.looksLikeRegistry host = false) :
    reference.Readable ∧ reference.text.toList = text := by
  obtain ⟨unhosted, parted, rfl⟩ := parted_of_ofUnhosted? read
  refine ⟨⟨parted, ?_, fun _ project named => ?_⟩, ?_⟩
  · rw [unhosted]
    exact nofun
  · obtain ⟨rest, slash⟩ := parted.cut_slash_of_project (Option.mem_def.mp named)
    exact unlike _ _ slash
  · rw [toList_text, unhosted]
    rfl

theorem readable_of_ofChars? {text : List Char} {reference : ImageReference}
    (read : ofChars? text = some reference) :
    reference.Readable ∧ reference.text.toList = text := by
  unfold ofChars? at read
  split at read
  · rename_i host rest slash
    split at read
    · rename_i looks
      obtain ⟨registry, hosted, unhosted⟩ := Option.bind_eq_some_iff.mp read
      obtain ⟨named, parted, rfl⟩ := parted_of_ofUnhosted? unhosted
      have hostname := Registry.text_of_ofChars? hosted
      refine ⟨⟨parted, ?_, ?_⟩, ?_⟩
      · rw [named]
        rintro _ ⟨⟩
        rw [hostname]
        exact looks
      · rw [named]
        exact nofun
      · rw [toList_text, named, Text.eq_of_cut '/' text _ _ slash, ← hostname]
        simp
    · rename_i unlike
      refine readable_of_unhosted read fun other others found => ?_
      rw [slash] at found
      cases found
      exact Bool.eq_false_iff.mpr unlike
  · rename_i slash
    refine readable_of_unhosted read fun other others found => ?_
    rw [slash] at found
    cases found

theorem ofChars?_text {reference : ImageReference} (readable : reference.Readable) :
    ofChars? reference.text.toList = some reference := by
  have parted := readable.toParted
  have whole := parted.ofUnhosted?_unhostedText reference.registry
  cases named : reference.registry with
  | some registry =>
    have slash : Text.cut '/' reference.text.toList =
        (registry.text.toList, some reference.unhostedText) := by
      rw [toList_text, named]
      simpa using Text.cut_append '/' _ reference.unhostedText registry.slash_not_mem_text
    simp only [ofChars?, slash, readable.hosted registry named, if_true, Registry.ofChars?_text,
      Option.bind_some]
    rw [← named]
    exact whole
  | none =>
    have unhosted : reference.text.toList = reference.unhostedText := by
      rw [toList_text, named]
      rfl
    rw [unhosted, ofChars?]
    rw [named] at whole
    cases placed : reference.project with
    | none =>
      rw [parted.cut_slash_of_single placed]
      simpa [← named] using whole
    | some project =>
      obtain ⟨rest, slash⟩ := parted.cut_slash_of_project placed
      rw [slash]
      simp only [readable.unhosted named project placed, Bool.false_eq_true, if_false]
      simpa [← named] using whole

/-- A text is read as the readable reference that has it, and as no other. -/
theorem parse_eq_ok_iff (s : String) (reference : ImageReference) :
    parse s = .ok reference ↔ reference.Readable ∧ reference.text = s := by
  have outcome : parse s = .ok reference ↔ ofChars? s.toList = some reference := by
    unfold parse
    cases ofChars? s.toList <;> simp
  rw [outcome]
  constructor
  · intro read
    obtain ⟨readable, same⟩ := readable_of_ofChars? read
    exact ⟨readable, String.toList_inj.mp same⟩
  · rintro ⟨readable, rfl⟩
    exact ofChars?_text readable

/-- Pinning takes the place of the tag and of the former image id. -/
theorem Readable.pinned {reference : ImageReference} (readable : reference.Readable)
    (digest : ContentDigest) : (reference.pinned digest).Readable where
  path := readable.path
  front := readable.front
  tag := nofun
  imageId := by
    rintro _ ⟨⟩
    rw [isDigest, ContentDigest.ofChars?_text]
    rfl
  hosted := readable.hosted
  unhosted := readable.unhosted

/-- Dropping the tag and the image id leaves nothing to be mistaken for the registry. -/
theorem Readable.repository {reference : ImageReference} (readable : reference.Readable) :
    reference.repository.Readable where
  path := readable.path
  front := readable.front
  tag := nofun
  imageId := nofun
  hosted := readable.hosted
  unhosted := readable.unhosted

/-- What has been read is written as it stood, and it is read back as it was: whole, without tag and
image id, and pinned to a digest in their place. -/
theorem parse_text_of_parse (s : String) (reference : ImageReference)
    (parses : parse s = .ok reference) (digest : ContentDigest) :
    reference.text = s ∧
      parse reference.text = .ok reference ∧
      parse reference.repository.text = .ok reference.repository ∧
      parse (reference.pinned digest).text = .ok (reference.pinned digest) := by
  obtain ⟨readable, same⟩ := (parse_eq_ok_iff s reference).mp parses
  refine ⟨same, ?_, ?_, ?_⟩
  · exact (parse_eq_ok_iff _ _).mpr ⟨readable, rfl⟩
  · exact (parse_eq_ok_iff _ _).mpr ⟨readable.repository, rfl⟩
  · exact (parse_eq_ok_iff _ _).mpr ⟨readable.pinned digest, rfl⟩

theorem tagged_release_is_read_back :
    let registry : Registry := ⟨"localhost", some "5000", by decide, by decide⟩
    let digest : ContentDigest :=
      ⟨"sha256", "0123456789abcdef0123456789abcdef", by decide, by decide⟩
    let reference : ImageReference :=
      { registry := some registry, project := some "ns", name := "app/web", tag := some "v2" }
    parse "localhost:5000/ns/app/web:v2" = .ok reference ∧
      reference.text = "localhost:5000/ns/app/web:v2" ∧
      parse reference.text = .ok reference ∧
      parse reference.repository.text = .ok reference.repository ∧
      parse (reference.pinned digest).text = .ok (reference.pinned digest) := by
  intro registry digest reference
  have parses : parse "localhost:5000/ns/app/web:v2" = .ok reference := by rfl
  exact ⟨parses, parse_text_of_parse _ reference parses digest⟩

def IsComponent (text : String) : Prop :=
  isPath text.toList = true ∧ '/' ∉ text.toList

/-- A parsed path is a single component exactly if there is no project. -/
theorem Parted.project_eq_none_iff {reference : ImageReference} (parted : reference.Parted) :
    reference.project = none ↔ '/' ∉ reference.repositoryPath.toList := by
  have front := parted.front
  unfold repositoryPath
  cases named : reference.project with
  | none =>
    rw [named] at front
    exact iff_of_true rfl front
  | some project => simp

/-- A single name may be put into a project. -/
theorem Parted.inProject {reference : ImageReference} (parted : reference.Parted)
    (single : reference.project = none) {project : String} (component : IsComponent project) :
    { reference with project := some project : ImageReference }.Parted where
  path := by
    have path := parted.path
    rw [repositoryPath, single] at path
    have joined := isPath_append_slash project.toList reference.name.toList
    rw [component.1, path] at joined
    simpa [repositoryPath] using joined
  front := component.2
  tag := parted.tag
  imageId := parted.imageId

theorem Readable.inProject {reference : ImageReference} (readable : reference.Readable)
    {registry : Registry} (named : reference.registry = some registry)
    (single : reference.project = none) {project : String} (component : IsComponent project) :
    { reference with project := some project : ImageReference }.Readable where
  toParted := readable.toParted.inProject single component
  hosted := readable.hosted
  unhosted := by
    intro unhosted
    cases unhosted.symm.trans named

end ImageReference

namespace DefaultRegistry

/-- What goes before the path of a reference when it is pulled: the library project, for a single
name on this registry. -/
def libraryPrefix (defaults : DefaultRegistry) (reference : ImageReference) : String :=
  if defaults.names reference.registry = true ∧ '/' ∉ reference.repositoryPath.toList then
    (defaults.libraryProject.map (· ++ "/")).getD ""
  else ""

def pullTarget (defaults : DefaultRegistry) (reference : ImageReference) : ImageReference :=
  if reference.project.isNone && defaults.names reference.registry then
    { reference with project := defaults.libraryProject }
  else reference

theorem pullSpec_eq (defaults : DefaultRegistry) (reference : ImageReference) :
    defaults.pullSpec reference = (defaults.pullTarget reference).text := by
  unfold pullSpec pullTarget
  split <;> rfl

section Pulled

variable (defaults : DefaultRegistry) {reference : ImageReference} (readable : reference.Readable)
  (valid : ∀ library ∈ defaults.libraryProject, ImageReference.IsComponent library)
include readable valid

theorem readable_pullTarget : (defaults.pullTarget reference).Readable := by
  unfold pullTarget
  split
  · rename_i completed
    rw [Bool.and_eq_true, Option.isNone_iff_eq_none] at completed
    obtain ⟨single, named⟩ := completed
    cases library : defaults.libraryProject with
    | none =>
      have same : { reference with project := none : ImageReference } = reference := by
        rw [← single]
      rwa [same]
    | some project =>
      cases host : reference.registry with
      | none =>
        rw [host] at named
        cases named
      | some registry =>
        have placed := readable.inProject host single (valid project library)
        rwa [← host]
  · exact readable

theorem parse_pullSpec_eq :
    ImageReference.parse (defaults.pullSpec reference) = .ok (defaults.pullTarget reference) := by
  rw [pullSpec_eq, ImageReference.parse_eq_ok_iff]
  exact ⟨defaults.readable_pullTarget readable valid, rfl⟩

/-- The text to pull by is read as the reference, with nothing but the library project added. -/
theorem parse_pullSpec :
    ∃ target, ImageReference.parse (defaults.pullSpec reference) = .ok target ∧
      target.registry = reference.registry ∧ target.tag = reference.tag ∧
      target.imageId = reference.imageId ∧
      target.repositoryPath = defaults.libraryPrefix reference ++ reference.repositoryPath := by
  refine ⟨_, defaults.parse_pullSpec_eq readable valid, ?_⟩
  have oneComponent := readable.project_eq_none_iff
  unfold pullTarget libraryPrefix
  by_cases completed : reference.project = none ∧ defaults.names reference.registry = true
  · obtain ⟨single, named⟩ := completed
    rw [if_pos (by simp [single, named]), if_pos ⟨named, oneComponent.mp single⟩]
    refine ⟨rfl, rfl, rfl, ?_⟩
    cases defaults.libraryProject <;> simp [ImageReference.repositoryPath, single]
  · rw [if_neg (by simpa using completed), if_neg (by rwa [← oneComponent, and_comm])]
    exact ⟨rfl, rfl, rfl, String.empty_append.symm⟩

end Pulled

end DefaultRegistry

end ContainerStreams
