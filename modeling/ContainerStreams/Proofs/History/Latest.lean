import ContainerStreams.Access.Queries
import ContainerStreams.ControlPlane.Scripted
import ContainerStreams.Proofs.ControlPlane.Execution
import ContainerStreams.Proofs.History.Lookup

set_option autoImplicit false

namespace ContainerStreams

namespace ImageStream

theorem foldl_laterEvent_of_not_newer (latest : String × TagEvent)
    (entries : List (String × TagEvent))
    (notNewer : ∀ entry ∈ entries, ¬ latest.2.created < entry.2.created) :
    entries.foldl laterEvent (some latest) = some latest := by
  apply List.foldlRecOn (motive := (· = some latest)) entries laterEvent rfl
  rintro _ rfl entry member
  exact if_neg (notNewer entry member)

/-- The first of the events created last is kept of a list, and no other one. -/
theorem foldl_laterEvent_eq_some_iff (entries : List (String × TagEvent))
    (latest : String × TagEvent) : entries.foldl laterEvent none = some latest ↔
      ∃ earlier later, entries = earlier ++ latest :: later ∧
        (∀ entry ∈ earlier, entry.2.created < latest.2.created) ∧
        ∀ entry ∈ later, ¬ latest.2.created < entry.2.created := by
  constructor
  · intro kept
    have nonempty : entries ≠ [] := by
      rintro rfl
      cases kept
    obtain ⟨earlier, found, later, split, keptFound, older, notNewer⟩ :=
      foldl_laterEvent entries nonempty
    obtain rfl : latest = found := Option.some.inj (kept.symm.trans keptFound)
    exact ⟨earlier, later, split, older, notNewer⟩
  · rintro ⟨earlier, later, rfl, older, notNewer⟩
    have displaces : laterEvent (earlier.foldl laterEvent none) latest = some latest := by
      by_cases first : earlier = []
      · subst first
        rfl
      · -- Whatever is kept of the earlier events is one of them.
        obtain ⟨_, best, _, rfl, kept, -, -⟩ := foldl_laterEvent earlier first
        rw [kept]
        exact if_pos (older best (List.mem_append_right _ (.head _)))
    rw [List.foldl_append, List.foldl_cons, displaces]
    exact foldl_laterEvent_of_not_newer latest later notNewer

variable (stream : ImageStream) (imageId : String)

/-- The event answers to the id, every one that answers to it and stands before it is older, and
none that stands behind it is newer. -/
def IsLatest (entry : String × TagEvent) : Prop :=
  ∃ earlier later, stream.events = earlier ++ entry :: later ∧
    imageMatchesId entry.2.image imageId = true ∧
    (∀ other ∈ earlier, imageMatchesId other.2.image imageId = true →
      other.2.created < entry.2.created) ∧
    ∀ other ∈ later, imageMatchesId other.2.image imageId = true →
      ¬ entry.2.created < other.2.created

theorem latestEvent?_eq_some_iff (entry : String × TagEvent) :
    stream.latestEvent? imageId = some entry ↔ stream.IsLatest imageId entry := by
  rw [latestEvent?, foldl_laterEvent_eq_some_iff]
  simp only [eventsOf_eq_append_cons_iff, IsLatest]
  constructor
  · rintro ⟨_, _, ⟨earlier, later, split, answers, rfl, rfl⟩, older, notNewer⟩
    refine ⟨earlier, later, split, answers, fun other member answering => ?_,
      fun other member answering => ?_⟩
    · exact older other (List.mem_filter.mpr ⟨member, answering⟩)
    · exact notNewer other (List.mem_filter.mpr ⟨member, answering⟩)
  · rintro ⟨earlier, later, split, answers, older, notNewer⟩
    refine ⟨_, _, ⟨earlier, later, split, answers, rfl, rfl⟩, fun other member => ?_,
      fun other member => ?_⟩
    · obtain ⟨listed, answering⟩ := List.mem_filter.mp member
      exact older other listed answering
    · obtain ⟨listed, answering⟩ := List.mem_filter.mp member
      exact notNewer other listed answering

theorem latestEvent?_eq_none_iff : stream.latestEvent? imageId = none ↔
    ∀ entry ∈ stream.events, imageMatchesId entry.2.image imageId = false := by
  constructor
  · intro unfound entry listed
    rw [← Bool.not_eq_true]
    intro answers
    have answering := (stream.mem_eventsOf imageId entry).mpr ⟨listed, answers⟩
    obtain ⟨_, latest, _, -, found, -, -⟩ :=
      stream.latestEvent?_spec imageId (List.ne_nil_of_mem answering)
    cases unfound.symm.trans found
  · intro unanswered
    have none : stream.eventsOf imageId = [] := by
      rw [eventsOf, List.filter_eq_nil_iff]
      intro entry listed
      rw [unanswered entry listed]
      exact Bool.false_ne_true
    rw [latestEvent?, none]
    rfl

/-- Without a tag, or with an empty one, the tag of the latest event stands in for it. -/
theorem allowsInsecure_unnamed_iff (digest : ContentDigest) {tag : Option String}
    (unnamed : tag = none ∨ tag = some "") : stream.allowsInsecure tag digest = true ↔
      stream.isInsecure = true ∨ ∃ entry wanted, stream.IsLatest digest.text entry ∧
        stream.specTag? entry.1 = some wanted ∧ wanted.importPolicy.insecure = true := by
  have empty : tag.filter (!·.isEmpty) = none := by
    rcases unnamed with rfl | rfl <;> rfl
  simp only [← latestEvent?_eq_some_iff, allowsInsecure, empty, Option.none_or, Bool.or_eq_true]
  cases stream.latestEvent? digest.text with
  | none => simp
  | some latest => simp [tagAllowsInsecure_iff]

theorem allowsInsecure_named_iff (digest : ContentDigest) {tag : String} (named : tag ≠ "") :
    stream.allowsInsecure (some tag) digest = true ↔ stream.isInsecure = true ∨
      ∃ wanted, stream.specTag? tag = some wanted ∧ wanted.importPolicy.insecure = true := by
  have kept : (some tag).filter (!·.isEmpty) = some tag := by
    simp [Option.filter, named]
  rw [allowsInsecure, kept, Option.some_or, Bool.or_eq_true, tagAllowsInsecure_iff]

end ImageStream

namespace StreamAccess

variable {σ : Type} [ControlPlane σ] (access : StreamAccess) (scope : Scope σ)

theorem exec_tagIsInsecure (tag : Option String) (digest : ContentDigest) :
    scope.exec (access.tagIsInsecure tag digest).run =
      match scope.exec access.fetchStream.run with
      | (.ok stream, after) => (.ok (stream.allowsInsecure tag digest), after)
      | (.error cause, after) => (.error (.streamUnavailable .tagIsInsecure cause), after) := by
  unfold tagIsInsecure streamFor
  rw [Scope.exec_run_bind, Scope.exec_run_adapt]
  cases scope.exec access.fetchStream.run with
  | mk fetched after => cases fetched <;> rfl

/-- The question is answered whenever there is a stream, by what the stream allows. -/
theorem tagIsInsecure_eq_ok_iff {tag : Option String} {digest : ContentDigest}
    {allowing : ImageStream → Prop}
    (allows : ∀ stream, stream.allowsInsecure tag digest = true ↔ allowing stream) (answer : Bool) :
    (scope.exec (access.tagIsInsecure tag digest).run).1 = .ok answer ↔
      ∃ stream, (scope.exec access.fetchStream.run).1 = .ok stream ∧
        (answer = true ↔ allowing stream) := by
  rw [exec_tagIsInsecure]
  cases scope.exec access.fetchStream.run with
  | mk fetched after =>
    cases fetched with
    | error cause => simp
    | ok stream =>
      simp only [Except.ok.injEq, exists_eq_left', ← allows]
      rw [← Bool.eq_iff_iff, eq_comm]

/-- The latest event of an image is the first in the history of those created last, and there is
none only if no event answers to the id. Without a tag, or with an empty one, insecure transport is
allowed if the stream allows it or if there is a latest event whose tag is wanted and allows it.
Under a tag that is named, that tag alone decides beside the stream, whatever the digest is. -/
theorem transport_follows_latest_event :
    (∀ (stream : ImageStream) (imageId : String),
      (stream.latestEvent? imageId = none ↔
        ∀ entry ∈ stream.events, imageMatchesId entry.2.image imageId = false) ∧
      ∀ entry, stream.latestEvent? imageId = some entry ↔ stream.IsLatest imageId entry) ∧
    (∀ tag : Option String, tag = none ∨ tag = some "" → ∀ (digest : ContentDigest) (answer : Bool),
      (scope.exec (access.tagIsInsecure tag digest).run).1 = .ok answer ↔
        ∃ stream, (scope.exec access.fetchStream.run).1 = .ok stream ∧
          (answer = true ↔ stream.isInsecure = true ∨
            ∃ entry wanted, stream.IsLatest digest.text entry ∧
              stream.specTag? entry.1 = some wanted ∧ wanted.importPolicy.insecure = true)) ∧
    ∀ tag : String, tag ≠ "" → ∀ digest : ContentDigest,
      (∀ other : ContentDigest, scope.exec (access.tagIsInsecure (some tag) digest).run =
        scope.exec (access.tagIsInsecure (some tag) other).run) ∧
      ∀ answer : Bool, (scope.exec (access.tagIsInsecure (some tag) digest).run).1 = .ok answer ↔
        ∃ stream, (scope.exec access.fetchStream.run).1 = .ok stream ∧
          (answer = true ↔ stream.isInsecure = true ∨
            ∃ wanted, stream.specTag? tag = some wanted ∧
              wanted.importPolicy.insecure = true) := by
  refine ⟨?_, ?_, ?_⟩
  · intro stream imageId
    exact ⟨stream.latestEvent?_eq_none_iff imageId, stream.latestEvent?_eq_some_iff imageId⟩
  · intro tag unnamed digest
    apply access.tagIsInsecure_eq_ok_iff scope
    intro stream
    exact stream.allowsInsecure_unnamed_iff digest unnamed
  · intro tag named digest
    refine ⟨fun other => ?_, ?_⟩
    · have same (stream : ImageStream) :
          stream.allowsInsecure (some tag) digest = stream.allowsInsecure (some tag) other := by
        rw [Bool.eq_iff_iff, stream.allowsInsecure_named_iff digest named,
          stream.allowsInsecure_named_iff other named]
      simp only [exec_tagIsInsecure, same]
    · apply access.tagIsInsecure_eq_ok_iff scope
      intro stream
      exact stream.allowsInsecure_named_iff digest named

/-- One tag lists its newer event last, and another one lists an event of the same time. -/
def disorderedStream : ImageStream where
  spec := { tags := [{ name := "v1", importPolicy := { insecure := true } }, { name := "v1" }] }
  status := { tags := [
    { tag := "v1", events := [firstPush, secondPush] }, { tag := "v2", events := [secondPush] }] }

/-- The first tag lends its policy to the image, and the second one has none of its own. -/
theorem first_of_tied_tags_decides :
    let digest : ContentDigest :=
      ⟨"sha256", "aaaaaaaaaaaaaaaaaaaaaaaaaaaaaaaa", by decide, by decide⟩
    let access : StreamAccess := { project := "ns", name := "app" }
    let scope : Scope Scripted := { plane := {}, cache := { stream := some disorderedStream } }
    disorderedStream.latestEvent? digest.text = some ("v1", secondPush) ∧
      (scope.exec (access.tagIsInsecure (some "") digest).run).1 = .ok true ∧
      (scope.exec (access.tagIsInsecure (some "v2") digest).run).1 = .ok false := by
  intro digest access scope
  obtain ⟨latest, unnamed, named⟩ := access.transport_follows_latest_event scope
  have isLatest : disorderedStream.IsLatest digest.text ("v1", secondPush) := by
    refine ⟨[("v1", firstPush)], [("v2", secondPush)], rfl, ?_, ?_, ?_⟩ <;> decide +kernel
  have secure : disorderedStream.isInsecure = false := by decide +kernel
  have unwanted : disorderedStream.specTag? "v2" = none := by decide +kernel
  refine ⟨((latest _ _).2 _).mpr isLatest, ?_, ?_⟩
  · rw [unnamed (some "") (.inr rfl)]
    exact ⟨disorderedStream, rfl, iff_of_true rfl (.inr ⟨_, _, isLatest, rfl, rfl⟩)⟩
  · rw [(named "v2" (by decide) digest).2]
    refine ⟨disorderedStream, rfl, iff_of_false Bool.false_ne_true ?_⟩
    simp [secure, unwanted]

end StreamAccess

end ContainerStreams
