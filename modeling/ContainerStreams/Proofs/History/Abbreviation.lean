import ContainerStreams.Proofs.History.Lookup
import ContainerStreams.Proofs.Text.ByteOrder
import Mathlib.Data.Set.Subsingleton

set_option autoImplicit false

namespace ContainerStreams

namespace ContentDigest

theorem matchesId_of_begins {digest : ContentDigest} {imageId longer : String}
    (nonempty : imageId ≠ "") (begins : imageId.toList <+: longer.toList)
    (answers : digest.matchesId longer = true) : digest.matchesId imageId = true := by
  simp only [matchesId, Bool.and_eq_true, Bool.not_eq_true', Bool.or_eq_true,
    List.isPrefixOf_iff_prefix] at answers ⊢
  refine ⟨by simpa using nonempty, ?_⟩
  -- Whichever of the two texts begins with the longer id begins with the shorter one too.
  rcases answers.2 with ofHex | ofText
  · exact .inl (begins.trans ofHex)
  · exact .inr (begins.trans ofText)

end ContentDigest

/-- A name that answers to an id answers to each beginning of it. -/
theorem imageMatchesId_of_begins {image imageId longer : String} (nonempty : imageId ≠ "")
    (begins : imageId.toList <+: longer.toList) (answers : imageMatchesId image longer = true) :
    imageMatchesId image imageId = true := by
  unfold imageMatchesId at answers ⊢
  split
  · rename_i digest read
    rw [read] at answers
    exact ContentDigest.matchesId_of_begins nonempty begins answers
  · rename_i read
    rw [read] at answers
    simp only [Bool.and_eq_true, Bool.not_eq_true', List.isPrefixOf_iff_prefix] at answers ⊢
    exact ⟨by simpa using nonempty, begins.trans answers.2⟩

namespace ImageStream

/-- The recorded names that answer to an id. -/
def Answering (stream : ImageStream) (imageId : String) : Set String :=
  {image | stream.Records image ∧ imageMatchesId image imageId = true}

variable (stream : ImageStream) (imageId : String)

theorem mem_answering_of_mem_eventsOf {entry : String × TagEvent}
    (member : entry ∈ stream.eventsOf imageId) : entry.2.image ∈ stream.Answering imageId :=
  (stream.mem_imagesOf_iff imageId _).mp
    ((stream.mem_imagesOf imageId _).mpr ⟨entry, member, rfl⟩)

theorem exists_mem_eventsOf_of_mem_answering {image : String}
    (answers : image ∈ stream.Answering imageId) :
    ∃ entry ∈ stream.eventsOf imageId, entry.2.image = image :=
  (stream.mem_imagesOf imageId image).mp ((stream.mem_imagesOf_iff imageId image).mpr answers)

theorem eventsOf_eq_nil_of_answering (unanswered : stream.Answering imageId = ∅) :
    stream.eventsOf imageId = [] := by
  rw [List.eq_nil_iff_forall_not_mem]
  intro entry member
  have answers := stream.mem_answering_of_mem_eventsOf imageId member
  rw [unanswered] at answers
  exact answers

/-- An id that only one name answers to is resolved to an event of that image. -/
theorem exists_resolved_of_answering {image : String}
    (single : stream.Answering imageId = {image}) :
    ∃ event, stream.resolveImageId imageId = .ok event ∧ event.image = image := by
  have same (entry : String × TagEvent) (member : entry ∈ stream.eventsOf imageId) :
      entry.2.image = image := by
    have answers := stream.mem_answering_of_mem_eventsOf imageId member
    rw [single] at answers
    exact answers
  have answered : image ∈ stream.Answering imageId := by
    rw [single]
    exact rfl
  obtain ⟨_, member, -⟩ := stream.exists_mem_eventsOf_of_mem_answering imageId answered
  exact stream.exists_resolved_of_image imageId (List.ne_nil_of_mem member) same

/-- An id is resolved by the set of the recorded names that answer to it. If there are none, it is
not found, and if there are several, it is ambiguous between exactly these, listed in the order of
their bytes and each once. If there is one, it is resolved to an event of that image, however often
and under whatever tags the image is recorded. -/
theorem resolved_by_answering_names :
    (stream.Answering imageId = ∅ →
      stream.resolveImageId imageId = .error (.notFound imageId)) ∧
    (∀ image, stream.Answering imageId = {image} → ∃ event,
      stream.resolveImageId imageId = .ok event ∧ event.image = image ∧
        ∃ history ∈ stream.status.tags, event ∈ history.events) ∧
    ((stream.Answering imageId).Nontrivial → ∃ images,
      stream.resolveImageId imageId = .error (.ambiguous imageId images) ∧
        (∀ image, image ∈ images ↔ image ∈ stream.Answering imageId) ∧
        images.Pairwise fun earlier later => Text.bytes earlier < Text.bytes later) := by
  refine ⟨?_, ?_, ?_⟩
  · intro unanswered
    apply resolveImageId_eq_notFound
    exact stream.eventsOf_eq_nil_of_answering imageId unanswered
  · intro image single
    obtain ⟨event, resolved, ofImage⟩ := stream.exists_resolved_of_answering imageId single
    obtain ⟨tag, listed⟩ := exists_mem_events_of_resolved resolved
    obtain ⟨history, member, recorded⟩ := List.mem_flatMap.mp listed
    obtain ⟨_, ofHistory, same⟩ := List.mem_map.mp recorded
    exact ⟨event, resolved, ofImage, history, member, (Prod.mk.inj same).2 ▸ ofHistory⟩
  · intro several
    obtain ⟨_, firstAnswers, _, secondAnswers, different⟩ := several
    obtain ⟨first, firstListed, rfl⟩ :=
      stream.exists_mem_eventsOf_of_mem_answering imageId firstAnswers
    obtain ⟨second, secondListed, rfl⟩ :=
      stream.exists_mem_eventsOf_of_mem_answering imageId secondAnswers
    refine ⟨stream.imagesOf imageId,
      stream.resolveImageId_eq_ambiguous imageId firstListed secondListed different,
      stream.mem_imagesOf_iff imageId, ?_⟩
    exact (stream.ascending_imagesOf imageId).imp (Text.lt_iff_bytes_lt _ _).mp

theorem eventsOf_eq_nil_of_notFound
    (unresolved : stream.resolveImageId imageId = .error (.notFound imageId)) :
    stream.eventsOf imageId = [] := by
  unfold resolveImageId at unresolved
  split at unresolved
  · cases unresolved
  · rename_i unnamed
    exact (stream.imagesOf_eq_nil_iff imageId).mp unnamed
  · rename_i unlisted _
    exact List.getLast?_eq_none_iff.mp unlisted
  · cases unresolved

section Longer

variable {stream imageId} {longer : String} (nonempty : imageId ≠ "")
  (begins : imageId.toList <+: longer.toList)
include nonempty begins

theorem answering_subset_of_begins : stream.Answering longer ⊆ stream.Answering imageId := by
  intro image answering
  obtain ⟨recorded, answers⟩ := answering
  exact ⟨recorded, imageMatchesId_of_begins nonempty begins answers⟩

theorem eventsOf_of_begins : stream.eventsOf longer =
    (stream.eventsOf imageId).filter fun entry => imageMatchesId entry.2.image longer := by
  rw [eventsOf, eventsOf, List.filter_filter]
  apply List.filter_congr
  intro entry _
  cases answers : imageMatchesId entry.2.image longer with
  | false => rfl
  | true => rw [imageMatchesId_of_begins nonempty begins answers, Bool.and_self]

theorem resolveImageId_of_begins_of_ok {event : TagEvent}
    (resolved : stream.resolveImageId imageId = .ok event) :
    stream.resolveImageId longer =
      if imageMatchesId event.image longer then .ok event else .error (.notFound longer) := by
  have unique := (stream.resolveImageId_eq_ok_iff imageId event).mp resolved
  split
  · rename_i answers
    -- All events that answer to the shorter id are of the one image, so none of them is lost.
    have kept : stream.eventsOf longer = stream.eventsOf imageId := by
      rw [eventsOf_of_begins nonempty begins, List.filter_eq_self]
      intro entry member
      rw [unique.2 entry member, answers]
    rw [resolveImageId_eq_ok_iff, kept]
    exact unique
  · rename_i unanswered
    apply resolveImageId_eq_notFound
    rw [eventsOf_of_begins nonempty begins, List.filter_eq_nil_iff]
    intro entry member
    rw [unique.2 entry member]
    exact unanswered

end Longer

/-- An id that is written out further is answered by no name that did not answer before. If it was
resolved, it is resolved to the same event as long as the image of that event answers to it, and not
found otherwise, but never ambiguous. If it was not found, it stays so. -/
theorem longer_id_narrows (longer : String) (nonempty : imageId ≠ "")
    (begins : imageId.toList <+: longer.toList) :
    stream.Answering longer ⊆ stream.Answering imageId ∧
    (∀ event, stream.resolveImageId imageId = .ok event →
      stream.resolveImageId longer =
        if imageMatchesId event.image longer then .ok event else .error (.notFound longer)) ∧
    (stream.resolveImageId imageId = .error (.notFound imageId) →
      stream.resolveImageId longer = .error (.notFound longer)) := by
  refine ⟨answering_subset_of_begins nonempty begins, fun event resolved =>
    resolveImageId_of_begins_of_ok nonempty begins resolved, fun unresolved => ?_⟩
  have unanswered := stream.eventsOf_eq_nil_of_notFound imageId unresolved
  apply resolveImageId_eq_notFound
  rw [eventsOf_of_begins nonempty begins, unanswered]
  rfl

end ImageStream

/-- An image whose algorithm's name is also a beginning of its hex value. -/
def doublePush : TagEvent where
  created := Pullthrough.newYear
  pullReference := "quay.io/ns/app:v2"
  image := "abc:abcabcabcabcabcabcabcabcabcabcabcabc"

/-- Three images, one of which is not named by a digest. -/
def mixedStream : ImageStream where
  status := { tags := [
    { tag := "v1", events := [firstPush] }, { tag := "v2", events := [doublePush, doublePush] },
    { tag := "v3", events := [{ firstPush with image := "abandoned" }] }] }

/-- The id is a beginning of the hex value, of the algorithm and of no other name. With a colon it
is no longer one of the hex value, and with any other letter it is one of nothing. -/
theorem longer_id_of_double_push :
    mixedStream.resolveImageId "abc" = .ok doublePush ∧
      mixedStream.resolveImageId "abc:" = .ok doublePush ∧
      mixedStream.resolveImageId "abcd" = .error (.notFound "abcd") ∧
      mixedStream.resolveImageId "abcde" = .error (.notFound "abcde") := by
  have resolved : mixedStream.resolveImageId "abc" = .ok doublePush := by decide +kernel
  obtain ⟨-, colon, -⟩ :=
    mixedStream.longer_id_narrows "abc" "abc:" (by decide) (by decide)
  obtain ⟨-, letter, -⟩ :=
    mixedStream.longer_id_narrows "abc" "abcd" (by decide) (by decide)
  obtain ⟨-, -, unfound⟩ :=
    mixedStream.longer_id_narrows "abcd" "abcde" (by decide) (by decide)
  have answers : imageMatchesId doublePush.image "abc:" = true := by decide +kernel
  have unanswered : ¬ imageMatchesId doublePush.image "abcd" = true := by decide +kernel
  have missing := (letter doublePush resolved).trans (if_neg unanswered)
  exact ⟨resolved, (colon doublePush resolved).trans (if_pos answers), missing, unfound missing⟩

end ContainerStreams
