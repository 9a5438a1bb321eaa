import ContainerStreams.Proofs.Reference.RoundTrip
import ContainerStreams.Proofs.Text.Grammar

/-!
The grammar of image references, `[host/]path[:tag][@id]`, apart from their reading. What may
remain of a component is tracked through the states of the reader, one character at a time, and the
reader of paths accepts just that. Main statement: a text is read as a reference exactly if it can
be spelled as the grammar says, the reference then has the parts of the spelling, and there is no
second spelling.
-/

set_option autoImplicit false

namespace ContainerStreams

namespace ImageReference

def IsRun (text : List Char) : Prop :=
  text ≠ [] ∧ ∀ c ∈ text, 'a' ≤ c ∧ c ≤ 'z' ∨ '0' ≤ c ∧ c ≤ '9'

/-- What stands between two runs: a dot, one or two underscores, or any number of hyphens. -/
def IsJoint (text : List Char) : Prop :=
  text = ['.'] ∨ text = ['_'] ∨ text = ['_', '_'] ∨ text ≠ [] ∧ ∀ c ∈ text, c = '-'

/-- Runs with a joint between any two of them. -/
inductive Component : List Char → Prop
  | run {run : List Char} (isRun : IsRun run) : Component run
  | joined {run joint others : List Char} (isRun : IsRun run) (isJoint : IsJoint joint)
      (component : Component others) : Component (run ++ (joint ++ others))

theorem isRunChar_iff (c : Char) :
    isRunChar c = true ↔ 'a' ≤ c ∧ c ≤ 'z' ∨ '0' ≤ c ∧ c ≤ '9' := by
  rw [isRunChar, Bool.or_eq_true, Text.isDigit_iff, Text.isLower_iff, or_comm]

theorem isRun_iff (text : List Char) :
    IsRun text ↔ text ≠ [] ∧ ∀ c ∈ text, isRunChar c = true := by
  simp only [IsRun, isRunChar_iff]

/-- What may follow a run within a component: nothing, or a joint and the component behind it. -/
def Continued (text : List Char) : Prop :=
  text = [] ∨ ∃ joint others, IsJoint joint ∧ Component others ∧ text = joint ++ others

theorem component_iff_continued (text : List Char) : Component text ↔
    ∃ run rest, IsRun run ∧ Continued rest ∧ text = run ++ rest := by
  constructor
  · intro component
    cases component with
    | run isRun => exact ⟨text, [], isRun, .inl rfl, (List.append_nil _).symm⟩
    | @joined run joint others isRun isJoint component =>
      exact ⟨run, joint ++ others, isRun, .inr ⟨joint, others, isJoint, component, rfl⟩, rfl⟩
  · rintro ⟨run, rest, isRun, rfl | ⟨joint, others, isJoint, component, rfl⟩, rfl⟩
    · rw [List.append_nil]
      exact .run isRun
    · exact .joined isRun isJoint component

theorem Component.ne_nil {text : List Char} (component : Component text) : text ≠ [] := by
  obtain ⟨run, rest, isRun, -, rfl⟩ := (component_iff_continued text).mp component
  exact List.append_ne_nil_of_left_ne_nil isRun.1 rest

/-- Any number of characters of one kind, and then a text of another. -/
def Stretch (kind : Char → Prop) (behind : List Char → Prop) (text : List Char) : Prop :=
  ∃ front rest, (∀ c ∈ front, kind c) ∧ behind rest ∧ text = front ++ rest

section Stretch

variable {kind : Char → Prop} {behind : List Char → Prop} {c : Char} {rest : List Char}

theorem exists_nonempty_stretch_iff :
    (∃ front others, (front ≠ [] ∧ ∀ other ∈ front, kind other) ∧ behind others ∧
      c :: rest = front ++ others) ↔ kind c ∧ Stretch kind behind rest := by
  constructor
  · rintro ⟨front, others, ⟨nonempty, all⟩, ends, whole⟩
    cases front with
    | nil => exact absurd rfl nonempty
    | cons first front =>
      obtain ⟨rfl, rfl⟩ := List.cons_eq_cons.mp whole
      obtain ⟨first, later⟩ := List.forall_mem_cons.mp all
      exact ⟨first, front, others, later, ends, rfl⟩
  · rintro ⟨first, front, others, all, ends, rfl⟩
    exact ⟨c :: front, others,
      ⟨List.cons_ne_nil _ _, List.forall_mem_cons.mpr ⟨first, all⟩⟩, ends, rfl⟩

theorem stretch_nil_iff : Stretch kind behind [] ↔ behind [] := by
  constructor
  · rintro ⟨front, rest, -, ends, whole⟩
    obtain ⟨rfl, rfl⟩ := List.append_eq_nil_iff.mp whole.symm
    exact ends
  · intro ends
    exact ⟨[], [], List.forall_mem_nil _, ends, rfl⟩

theorem stretch_cons_iff : Stretch kind behind (c :: rest) ↔
    behind (c :: rest) ∨ kind c ∧ Stretch kind behind rest := by
  rw [← exists_nonempty_stretch_iff]
  constructor
  · rintro ⟨front, others, all, ends, whole⟩
    by_cases empty : front = []
    · subst empty
      obtain rfl : c :: rest = others := whole
      exact .inl ends
    · exact .inr ⟨front, others, ⟨empty, all⟩, ends, whole⟩
  · rintro (ends | ⟨front, others, ⟨-, all⟩, ends, whole⟩)
    · exact ⟨[], c :: rest, List.forall_mem_nil _, ends, rfl⟩
    · exact ⟨front, others, all, ends, whole⟩

end Stretch

/-- What may remain of a component when its reading has come to the state. -/
def Remains : PathState → List Char → Prop
  | .inRun, text => Stretch (isRunChar · = true) Continued text
  | .afterUnderscore, text => Component text ∨ ∃ others, Component others ∧ text = '_' :: others
  | .afterHyphen, text => Stretch (· = '-') Component text
  | _, text => Component text

@[simp] theorem remains_componentStart_iff (text : List Char) :
    Remains .componentStart text ↔ Component text := Iff.rfl

@[simp] theorem remains_afterDot_iff (text : List Char) :
    Remains .afterDot text ↔ Component text := Iff.rfl

@[simp] theorem remains_afterUnderscores_iff (text : List Char) :
    Remains .afterUnderscores text ↔ Component text := Iff.rfl

theorem component_cons_iff (c : Char) (rest : List Char) :
    Component (c :: rest) ↔ isRunChar c = true ∧ Remains .inRun rest := by
  rw [component_iff_continued]
  simp only [isRun_iff]
  exact exists_nonempty_stretch_iff

theorem continued_cons_iff (c : Char) (rest : List Char) :
    Continued (c :: rest) ↔ c = '.' ∧ Component rest ∨ c = '_' ∧ Remains .afterUnderscore rest ∨
      c = '-' ∧ Remains .afterHyphen rest := by
  constructor
  · rintro (empty | ⟨joint, others, isJoint, component, whole⟩)
    · cases empty
    · rcases isJoint with rfl | rfl | rfl | hyphens
      · obtain ⟨rfl, rfl⟩ := List.cons_eq_cons.mp whole
        exact .inl ⟨rfl, component⟩
      · obtain ⟨rfl, rfl⟩ := List.cons_eq_cons.mp whole
        exact .inr (.inl ⟨rfl, .inl component⟩)
      · obtain ⟨rfl, rfl⟩ := List.cons_eq_cons.mp whole
        exact .inr (.inl ⟨rfl, .inr ⟨others, component, rfl⟩⟩)
      · exact .inr (.inr (exists_nonempty_stretch_iff.mp
          ⟨joint, others, hyphens, component, whole⟩))
  · rintro (⟨rfl, component⟩ | ⟨rfl, component | ⟨others, component, rfl⟩⟩ | hyphens)
    · exact .inr ⟨['.'], rest, .inl rfl, component, rfl⟩
    · exact .inr ⟨['_'], rest, .inr (.inl rfl), component, rfl⟩
    · exact .inr ⟨['_', '_'], others, .inr (.inr (.inl rfl)), component, rfl⟩
    · obtain ⟨joint, others, isJoint, component, whole⟩ :=
        (@exists_nonempty_stretch_iff (· = '-') Component c rest).mpr hyphens
      exact .inr ⟨joint, others, .inr (.inr (.inr isJoint)), component, whole⟩

theorem remains_inRun_cons_iff (c : Char) (rest : List Char) : Remains .inRun (c :: rest) ↔
    Continued (c :: rest) ∨ isRunChar c = true ∧ Remains .inRun rest :=
  stretch_cons_iff

theorem remains_afterHyphen_cons_iff (c : Char) (rest : List Char) :
    Remains .afterHyphen (c :: rest) ↔
      Component (c :: rest) ∨ c = '-' ∧ Remains .afterHyphen rest :=
  stretch_cons_iff

theorem remains_afterUnderscore_cons_iff (c : Char) (rest : List Char) :
    Remains .afterUnderscore (c :: rest) ↔ Component (c :: rest) ∨ c = '_' ∧ Component rest := by
  refine or_congr_right ⟨?_, ?_⟩
  · rintro ⟨others, component, whole⟩
    obtain ⟨rfl, rfl⟩ := List.cons_eq_cons.mp whole
    exact ⟨rfl, component⟩
  · rintro ⟨rfl, component⟩
    exact ⟨rest, component, rfl⟩

theorem ne_joint_of_isRunChar {c : Char} (runs : isRunChar c = true) :
    c ≠ '.' ∧ c ≠ '_' ∧ c ≠ '-' ∧ c ≠ '/' := by
  refine ⟨?_, ?_, ?_, ?_⟩ <;> rintro rfl <;> exact absurd runs (by decide)

/-- A component goes on with a character exactly if the reader has a next state for it, and goes on
from there. -/
theorem remains_cons_iff (state : PathState) (c : Char) (rest : List Char) :
    Remains state (c :: rest) ↔
      c ≠ '/' ∧ (nextState? state c).elim False (Remains · rest) := by
  have joint : isRunChar '.' = false ∧ isRunChar '_' = false ∧ isRunChar '-' = false ∧
    isRunChar '/' = false := by decide
  fun_cases nextState? state c
  case case1 runs =>
    have apart := ne_joint_of_isRunChar runs
    cases state with
    | inRun => simp [remains_inRun_cons_iff, continued_cons_iff, runs, apart]
    | afterUnderscore => simp [remains_afterUnderscore_cons_iff, component_cons_iff, runs, apart]
    | afterHyphen => simp [remains_afterHyphen_cons_iff, component_cons_iff, runs, apart]
    | _ => simp [component_cons_iff, runs, apart]
  -- After a run there may be any joint, or a slash, which is none.
  case case2 | case3 | case4 | case5 => simp [remains_inRun_cons_iff, continued_cons_iff, joint]
  case case6 => simp [remains_afterUnderscore_cons_iff, component_cons_iff, joint]
  case case7 => simp [remains_afterHyphen_cons_iff, component_cons_iff, joint]
  -- The reader has no next state, and there is no such component either.
  case case8 noRun noDot noUnderscore noHyphen noSlash noSecond noFurther =>
    cases state with
    | inRun => simp_all [remains_inRun_cons_iff, continued_cons_iff]
    | afterUnderscore => simp_all [remains_afterUnderscore_cons_iff, component_cons_iff]
    | afterHyphen => simp_all [remains_afterHyphen_cons_iff, component_cons_iff]
    | _ => simp [component_cons_iff, noRun]

/-- What is read as the rest of a component is what may remain of one. -/
theorem readsPath_iff_remains (state : PathState) (text : List Char) :
    readsPath state text = true ∧ '/' ∉ text ↔ Remains state text := by
  induction text generalizing state with
  | nil =>
    have unfinished : ¬ Component [] := fun component => component.ne_nil rfl
    cases state <;> simp [readsPath, Remains, stretch_nil_iff, unfinished, Continued]
  | cons c rest ih =>
    rw [remains_cons_iff, readsPath_cons, List.mem_cons, not_or]
    cases nextState? state c with
    | none => simp
    | some next =>
      rw [Option.elim_some, Option.elim_some, ← ih next, and_left_comm, ne_comm]

/-- A component is a path without a slash. -/
theorem component_iff (text : List Char) : Component text ↔ isPath text = true ∧ '/' ∉ text :=
  (readsPath_iff_remains .componentStart text).symm

example : Component "a__b-0.c".toList ∧ ¬ Component "a___b".toList := by
  rw [component_iff, component_iff]
  decide

/-- A path is components with slashes between them. -/
theorem isPath_iff (path : List Char) :
    isPath path = true ↔ ∀ component ∈ path.splitOn '/', Component component := by
  by_cases divided : '/' ∈ path
  · obtain ⟨front, rest, rfl, free⟩ := List.eq_append_cons_of_mem divided
    rw [isPath_append_slash, List.splitOn_append_cons_self_of_not_mem free,
      List.forall_mem_cons, component_iff, ← isPath_iff rest, Bool.and_eq_true]
    simp [free]
  · rw [List.splitOn_eq_singleton divided, List.forall_mem_singleton, component_iff]
    simp [divided]
-- The path behind the first slash is shorter.
termination_by path.length
decreasing_by
  simp only [*, List.length_append, List.length_cons]
  omega

/-- One to 128 letters, digits, underscores, dots and hyphens, neither of the last two in front. -/
structure IsTagText (text : List Char) : Prop where
  length : 1 ≤ text.length ∧ text.length ≤ 128
  chars : ∀ c ∈ text, 'A' ≤ c ∧ c ≤ 'Z' ∨ 'a' ≤ c ∧ c ≤ 'z' ∨ '0' ≤ c ∧ c ≤ '9' ∨
    c = '_' ∨ c = '.' ∨ c = '-'
  start : text.head? ≠ some '.' ∧ text.head? ≠ some '-'

theorem isTagChar_iff (c : Char) : isTagChar c = true ↔ 'A' ≤ c ∧ c ≤ 'Z' ∨ 'a' ≤ c ∧ c ≤ 'z' ∨
    '0' ≤ c ∧ c ≤ '9' ∨ c = '_' ∨ c = '.' ∨ c = '-' := by
  change ((c.isUpper || c.isLower || c.isDigit) || c = '_' || c = '.' || c = '-') = true ↔ _
  simp only [Bool.or_eq_true, decide_eq_true_eq, Text.isUpper_iff, Text.isLower_iff,
    Text.isDigit_iff, or_assoc]

theorem isTagStart_iff (c : Char) :
    isTagStart c = true ↔ isTagChar c = true ∧ c ≠ '.' ∧ c ≠ '-' := by
  constructor
  · intro starts
    refine ⟨by rw [isTagChar, starts, Bool.true_or, Bool.true_or], ?_, ?_⟩ <;>
      rintro rfl <;> exact absurd starts (by decide)
  · rintro ⟨inTag, noDot, noHyphen⟩
    simpa [isTagChar, noDot, noHyphen] using inTag

theorem isTag_iff (text : List Char) : isTag text = true ↔ IsTagText text := by
  cases text with
  | nil => exact iff_of_false nofun fun isTagText => absurd isTagText.length.1 (by decide)
  | cons c rest =>
    simp only [isTag, Bool.and_eq_true, List.all_eq_true, decide_eq_true_eq, isTagStart_iff]
    constructor
    · rintro ⟨⟨⟨first, noDot, noHyphen⟩, later⟩, short⟩
      refine ⟨⟨Nat.succ_pos _, Nat.succ_le_succ short⟩, ?_, by simpa, by simpa⟩
      intro other member
      rw [← isTagChar_iff]
      rcases List.mem_cons.mp member with rfl | inRest
      · exact first
      · exact later other inRest
    · rintro ⟨⟨-, short⟩, chars, noDot, noHyphen⟩
      simp only [← isTagChar_iff, List.forall_mem_cons] at chars
      exact ⟨⟨⟨chars.1, by simpa using noDot, by simpa using noHyphen⟩, chars.2⟩,
        Nat.le_of_succ_le_succ short⟩

theorem isDigest_iff (text : String) :
    isDigest text.toList = true ↔ ∃ digest, ContentDigest.parse text = .ok digest := by
  unfold isDigest ContentDigest.parse
  cases ContentDigest.ofChars? text.toList <;> simp

theorem looksLikeRegistry_iff (component : List Char) :
    Registry.looksLikeRegistry component = true ↔
      '.' ∈ component ∨ ':' ∈ component ∨ component = "localhost".toList := by
  rw [Registry.looksLikeRegistry, Bool.or_eq_true, Bool.or_eq_true, List.contains_iff_mem,
    List.contains_iff_mem, decide_eq_true_eq, or_assoc]

/-- What stands before the first slash, if it is written like a hostname: with a dot or a colon in
it, or as `localhost`. -/
def hostOf? (s : String) : Option String :=
  let front := s.toList.takeWhile (· ≠ '/')
  if '/' ∈ s.toList ∧ ('.' ∈ front ∨ ':' ∈ front ∨ front = "localhost".toList) then
    some (String.ofList front)
  else none

theorem hostOf?_of_slash_not_mem {s : String} (single : '/' ∉ s.toList) : hostOf? s = none :=
  if_neg fun divided => single divided.1

theorem hostOf?_of_front {s : String} {front rest : List Char}
    (whole : s.toList = front ++ '/' :: rest) (free : '/' ∉ front) :
    hostOf? s = (some (String.ofList front)).filter (Registry.looksLikeRegistry ·.toList) := by
  have isFront : s.toList.takeWhile (· ≠ '/') = front := by
    rw [whole, List.takeWhile_append_of_pos]
    · simp
    · intro c member
      have other : c ≠ '/' := fun same => free (same ▸ member)
      simp [other]
  have divided : '/' ∈ s.toList := by simp [whole]
  simp only [hostOf?, isFront, divided, true_and, Option.filter_some, String.toList_ofList,
    looksLikeRegistry_iff]

/-- The first component of the text is the registry, or else the project, and a single name is
none. -/
theorem Parted.hostOf?_text {reference : ImageReference} (parted : reference.Parted) :
    hostOf? reference.text =
      (reference.hostname?.or reference.project).filter (Registry.looksLikeRegistry ·.toList) := by
  have text := reference.toList_text
  unfold hostname?
  cases named : reference.registry with
  | some registry =>
    have whole : reference.text.toList =
        registry.text.toList ++ '/' :: reference.unhostedText := by
      rw [text, named]
      simp
    rw [hostOf?_of_front whole registry.slash_not_mem_text, String.ofList_toList]
    rfl
  | none =>
    have unhosted : reference.text.toList = reference.unhostedText := by
      rw [text, named]
      rfl
    have free := Text.not_mem_cut '/' reference.unhostedText
    cases placed : reference.project with
    | none =>
      rw [parted.cut_slash_of_single placed, ← unhosted] at free
      exact hostOf?_of_slash_not_mem free
    | some project =>
      obtain ⟨rest, cut⟩ := parted.cut_slash_of_project placed
      have whole := Text.eq_of_cut '/' _ _ _ cut
      rw [cut] at free
      rw [hostOf?_of_front (unhosted.trans whole) free, String.ofList_toList]
      rfl

/-- A reference is readable if what is written like a hostname in its text is its registry. -/
theorem Parted.readable_iff {reference : ImageReference} (parted : reference.Parted) :
    reference.Readable ↔ hostOf? reference.text = reference.hostname? := by
  rw [parted.hostOf?_text]
  constructor
  · intro readable
    unfold hostname?
    cases named : reference.registry with
    | some registry => simpa using readable.hosted registry named
    | none => simpa using readable.unhosted named
  · intro host
    refine ⟨parted, ?_, ?_⟩
    · intro registry named
      rw [hostname?, Option.mem_def.mp named] at host
      simpa using host
    · intro unnamed
      rw [hostname?, unnamed] at host
      simpa using host

structure Spelling where
  host : Option String := none
  first : String
  others : List String := []
  tag : Option String := none
  imageId : Option String := none

namespace Spelling

def path (spelling : Spelling) : String :=
  "/".intercalate (spelling.first :: spelling.others)

def text (spelling : Spelling) : String :=
  (spelling.host.map (· ++ "/")).getD "" ++ spelling.path ++
    (spelling.tag.map (":" ++ ·)).getD "" ++ (spelling.imageId.map ("@" ++ ·)).getD ""

/-- The grammar of references: the text is put together from the parts, the host is whatever is
written like a hostname in it, and each part is valid. -/
structure Spells (spelling : Spelling) (s : String) : Prop where
  text : spelling.text = s
  host : spelling.host = hostOf? s
  registry : ∀ host ∈ spelling.host, ∃ registry, Registry.parse host = .ok registry
  components : ∀ component ∈ spelling.first :: spelling.others, Component component.toList
  tag : ∀ tag ∈ spelling.tag, IsTagText tag.toList
  imageId : ∀ imageId ∈ spelling.imageId, ∃ digest, ContentDigest.parse imageId = .ok digest

/-- The reference has the parts. Of a path with more than one component, the first is the
project. -/
structure Denotes (spelling : Spelling) (reference : ImageReference) : Prop where
  registry : reference.hostname? = spelling.host
  project : reference.project = if spelling.others = [] then none else some spelling.first
  name : reference.name =
    if spelling.others = [] then spelling.first else "/".intercalate spelling.others
  tag : reference.tag = spelling.tag
  imageId : reference.imageId = spelling.imageId

variable {spelling : Spelling} {reference : ImageReference} {s : String}

theorem Denotes.repositoryPath_eq (denotes : spelling.Denotes reference) :
    reference.repositoryPath = spelling.path := by
  have project := denotes.project
  have name := denotes.name
  unfold repositoryPath path
  cases others : spelling.others with
  | nil =>
    rw [others, if_pos rfl] at project name
    simp [project, name]
  | cons second rest =>
    rw [others, if_neg (List.cons_ne_nil _ _)] at project name
    simp [project, name, String.intercalate_cons_cons, String.append_assoc]

theorem Denotes.text_eq (denotes : spelling.Denotes reference) :
    reference.text = spelling.text := by
  have path := denotes.repositoryPath_eq
  have host := denotes.registry
  unfold ImageReference.text Spelling.text
  rw [path, denotes.tag, denotes.imageId, ← host, hostname?]
  cases reference.registry <;> cases spelling.tag <;> cases spelling.imageId <;> simp

theorem Spells.free (spells : spelling.Spells s) :
    ∀ component ∈ (spelling.first :: spelling.others).map String.toList, '/' ∉ component := by
  intro component member
  obtain ⟨spelled, listed, rfl⟩ := List.mem_map.mp member
  exact ((component_iff _).mp (spells.components spelled listed)).2

theorem Spells.splitOn_path (spells : spelling.Spells s) :
    spelling.path.toList.splitOn '/' =
      (spelling.first :: spelling.others).map String.toList := by
  rw [path, String.toList_intercalate]
  exact List.splitOn_intercalate '/' spells.free (by simp)

theorem Spells.exists_denotes (spells : spelling.Spells s) :
    ∃ reference, spelling.Denotes reference := by
  have named : ∃ registry : Option Registry, registry.map Registry.text = spelling.host := by
    cases host : spelling.host with
    | none => exact ⟨none, rfl⟩
    | some hostname =>
      obtain ⟨registry, parses⟩ := spells.registry hostname host
      exact ⟨some registry, congrArg some ((Registry.parse_eq_ok_iff _ _).mp parses)⟩
  obtain ⟨registry, named⟩ := named
  exact ⟨{
    registry
    project := if spelling.others = [] then none else some spelling.first
    name := if spelling.others = [] then spelling.first else "/".intercalate spelling.others
    tag := spelling.tag, imageId := spelling.imageId }, named, rfl, rfl, rfl, rfl⟩

/-- No part of it is taken for another when the text is read. -/
theorem Spells.readable (spells : spelling.Spells s) (denotes : spelling.Denotes reference) :
    reference.Readable := by
  have whole : reference.text = s := denotes.text_eq.trans spells.text
  have components : ∀ component ∈ (spelling.first :: spelling.others).map String.toList,
      Component component := List.forall_mem_map.mpr spells.components
  have parted : reference.Parted := by
    refine ⟨?_, ?_, ?_, ?_⟩
    · rw [denotes.repositoryPath_eq, isPath_iff, spells.splitOn_path]
      exact components
    · have front : reference.project.getD reference.name = spelling.first := by
        rw [denotes.project, denotes.name]
        split <;> rfl
      rw [front]
      exact spells.free _ (.head _)
    · intro tag tagged
      rw [isTag_iff]
      exact spells.tag tag (denotes.tag ▸ tagged)
    · intro imageId pinned
      rw [isDigest_iff]
      exact spells.imageId imageId (denotes.imageId ▸ pinned)
  rw [parted.readable_iff, whole, ← spells.host, denotes.registry]

end Spelling

def spelling (reference : ImageReference) : Spelling where
  host := reference.hostname?
  first := reference.project.getD reference.name
  others := if reference.project.isSome then
    (reference.name.toList.splitOn '/').map String.ofList else []
  tag := reference.tag
  imageId := reference.imageId

theorem intercalate_splitOn (s : String) :
    "/".intercalate ((s.toList.splitOn '/').map String.ofList) = s := by
  rw [← String.toList_inj, String.toList_intercalate, List.map_map]
  simp

theorem denotes_spelling (reference : ImageReference) :
    reference.spelling.Denotes reference := by
  refine ⟨rfl, ?_, ?_, rfl, rfl⟩ <;> unfold spelling <;> cases reference.project <;>
    simp [intercalate_splitOn]

theorem Parted.splitOn_path {reference : ImageReference} (parted : reference.Parted) :
    reference.repositoryPath.toList.splitOn '/' =
      (reference.spelling.first :: reference.spelling.others).map String.toList := by
  have front := parted.front
  unfold repositoryPath spelling
  cases placed : reference.project with
  | none =>
    rw [placed, Option.getD_none] at front
    simpa using List.splitOn_eq_singleton front
  | some project =>
    rw [placed, Option.getD_some] at front
    simpa using List.splitOn_append_cons_self_of_not_mem front reference.name.toList

/-- The parts of a readable reference follow the grammar. -/
theorem Readable.spells_spelling {reference : ImageReference} (readable : reference.Readable) :
    reference.spelling.Spells reference.text where
  text := reference.denotes_spelling.text_eq.symm
  host := (readable.readable_iff.mp readable).symm
  registry := by
    intro host named
    obtain ⟨registry, -, rfl⟩ := Option.map_eq_some_iff.mp named
    exact ⟨registry, (Registry.parse_eq_ok_iff _ _).mpr rfl⟩
  components := by
    have valid := (isPath_iff _).mp readable.path
    rw [readable.splitOn_path] at valid
    exact List.forall_mem_map.mp valid
  tag := fun tag tagged => (isTag_iff _).mp (readable.tag tag tagged)
  imageId := fun imageId pinned => (isDigest_iff _).mp (readable.imageId imageId pinned)

/-- A reference can be spelled in one way only, since its components have no slash in them. -/
theorem Spelling.Spells.eq_spelling {spelling : Spelling} {reference : ImageReference} {s : String}
    (spells : spelling.Spells s) (denotes : spelling.Denotes reference) :
    spelling = reference.spelling := by
  have pieces := (spells.readable denotes).splitOn_path
  rw [denotes.repositoryPath_eq, spells.splitOn_path] at pieces
  have components := (List.map_inj_right fun _ _ same => String.toList_inj.mp same).mp pieces
  obtain ⟨first, others⟩ := List.cons_eq_cons.mp components
  obtain ⟨host, first', others', tag, imageId⟩ := spelling
  simp only [ImageReference.spelling, Spelling.mk.injEq]
  exact ⟨denotes.registry.symm, first, others, denotes.tag.symm, denotes.imageId.symm⟩

theorem parse_eq_ok_iff_spelled (s : String) (reference : ImageReference) :
    parse s = .ok reference ↔
      ∃ spelling : Spelling, spelling.Spells s ∧ spelling.Denotes reference := by
  rw [parse_eq_ok_iff]
  constructor
  · rintro ⟨readable, rfl⟩
    exact ⟨reference.spelling, readable.spells_spelling, reference.denotes_spelling⟩
  · rintro ⟨spelling, spells, denotes⟩
    exact ⟨spells.readable denotes, denotes.text_eq.trans spells.text⟩

theorem Spelling.Spells.unique {s : String} {one other : Spelling} (spells : one.Spells s)
    (again : other.Spells s) : one = other := by
  obtain ⟨reference, denotes⟩ := spells.exists_denotes
  obtain ⟨same, denoted⟩ := again.exists_denotes
  have parses := (parse_eq_ok_iff_spelled s reference).mpr ⟨one, spells, denotes⟩
  have parsed := (parse_eq_ok_iff_spelled s same).mpr ⟨other, again, denoted⟩
  obtain rfl : reference = same := Except.ok.inj (parses.symm.trans parsed)
  rw [spells.eq_spelling denotes, again.eq_spelling denoted]

theorem parse_eq_error_iff (s : String) (error : ReferenceError) :
    parse s = .error error ↔
      (∀ reference, parse s ≠ .ok reference) ∧ error = .invalidReference s := by
  unfold parse
  cases ofChars? s.toList with
  | none => simp [eq_comm]
  | some reference => simp

/-- A text is read exactly if it can be spelled in the grammar. There is then only one spelling, and
it gives the parts of the reference. Every other text is named in the error. -/
theorem parse_iff_spelled (s : String) :
    (∀ reference, parse s = .ok reference ↔
      ∃ spelling : Spelling, spelling.Spells s ∧ spelling.Denotes reference) ∧
    (∀ one other : Spelling, one.Spells s → other.Spells s → one = other) ∧
    ∀ error, parse s = .error error ↔
      (¬ ∃ spelling : Spelling, spelling.Spells s) ∧ error = .invalidReference s := by
  refine ⟨parse_eq_ok_iff_spelled s, fun one other spells again => spells.unique again, ?_⟩
  intro error
  rw [parse_eq_error_iff]
  refine and_congr_left fun _ => ?_
  constructor
  · rintro unread ⟨spelling, spells⟩
    obtain ⟨reference, denotes⟩ := spells.exists_denotes
    exact unread reference ((parse_eq_ok_iff_spelled s reference).mpr ⟨spelling, spells, denotes⟩)
  · intro unspelled reference parses
    obtain ⟨spelling, spells, -⟩ := (parse_eq_ok_iff_spelled s reference).mp parses
    exact unspelled ⟨spelling, spells⟩

end ImageReference

end ContainerStreams
