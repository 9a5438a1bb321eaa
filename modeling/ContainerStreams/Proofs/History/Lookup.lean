import ContainerStreams.Proofs.Pullthrough.Transport
import ContainerStreams.Proofs.Reference.RoundTrip
import Mathlib.Data.List.Induction

set_option autoImplicit false

namespace ContainerStreams

namespace ContentDigest

theorem colon_mem_text (digest : ContentDigest) : ':' ∈ digest.text.toList := by
  simp [text]

theorem colon_not_mem_hex (digest : ContentDigest) : ':' ∉ digest.hex.toList := by
  intro member
  exact absurd (digest.isHexDigit_of_mem_hex ':' member) (by decide)

theorem isEmpty_text (digest : ContentDigest) : digest.text.isEmpty = false := by
  rw [← Bool.not_eq_true, String.isEmpty_iff]
  intro empty
  have member := digest.colon_mem_text
  rw [empty] at member
  exact absurd member (by decide)

/-- A whole digest begins no hex value, since it has a colon in it. -/
theorem matchesId_text_iff (recorded digest : ContentDigest) :
    recorded.matchesId digest.text = true ↔ digest.text.toList <+: recorded.text.toList := by
  have outside : ¬ digest.text.toList <+: recorded.hex.toList := by
    intro begins
    exact recorded.colon_not_mem_hex (begins.subset digest.colon_mem_text)
  simp [matchesId, isEmpty_text, outside]

end ContentDigest

/-- A recorded name answers to a whole digest if it begins with it, whether or not the name is a
digest itself. -/
theorem imageMatchesId_text_iff (image : String) (digest : ContentDigest) :
    imageMatchesId image digest.text = true ↔ digest.text.toList <+: image.toList := by
  unfold imageMatchesId
  split
  · rename_i recorded read
    rw [recorded.matchesId_text_iff, ContentDigest.text_of_ofChars? read]
  · simp [ContentDigest.isEmpty_text]

namespace ImageStream

/-- Some tag of the stream points to the image, or has pointed to it. -/
def Records (stream : ImageStream) (image : String) : Prop :=
  ∃ entry ∈ stream.events, entry.2.image = image

variable (stream : ImageStream) (imageId : String)

theorem mem_eventsOf (entry : String × TagEvent) : entry ∈ stream.eventsOf imageId ↔
    entry ∈ stream.events ∧ imageMatchesId entry.2.image imageId = true :=
  List.mem_filter

/-- An event among those that answer to an id divides the history as it divides them. -/
theorem eventsOf_eq_append_cons_iff {front back : List (String × TagEvent)}
    {entry : String × TagEvent} : stream.eventsOf imageId = front ++ entry :: back ↔
      ∃ earlier later, stream.events = earlier ++ entry :: later ∧
        imageMatchesId entry.2.image imageId = true ∧
        (earlier.filter fun other => imageMatchesId other.2.image imageId) = front ∧
        (later.filter fun other => imageMatchesId other.2.image imageId) = back := by
  constructor
  · intro whole
    obtain ⟨start, rest, split, ofStart, ofRest⟩ := List.filter_eq_append_iff.mp whole
    obtain ⟨between, later, restSplit, unanswering, answers, ofLater⟩ :=
      List.filter_eq_cons_iff.mp ofRest
    refine ⟨start ++ between, later, ?_, answers, ?_, ofLater⟩
    · rw [split, restSplit, List.append_assoc]
    · rw [List.filter_append, ofStart, List.filter_eq_nil_iff.mpr unanswering, List.append_nil]
  · rintro ⟨earlier, later, split, answers, rfl, rfl⟩
    rw [eventsOf, split, List.filter_append, List.filter_cons, if_pos answers]

theorem mem_imagesOf (image : String) : image ∈ stream.imagesOf imageId ↔
    ∃ entry ∈ stream.eventsOf imageId, entry.2.image = image := by
  rw [imagesOf, SortedMap.mem_keys_ofList]
  simp

theorem mem_imagesOf_iff (image : String) : image ∈ stream.imagesOf imageId ↔
    stream.Records image ∧ imageMatchesId image imageId = true := by
  rw [mem_imagesOf]
  constructor
  · intro named
    obtain ⟨entry, member, rfl⟩ := named
    obtain ⟨listed, answers⟩ := (stream.mem_eventsOf imageId entry).mp member
    exact ⟨⟨entry, listed, rfl⟩, answers⟩
  · intro recorded
    obtain ⟨⟨entry, listed, rfl⟩, answers⟩ := recorded
    exact ⟨entry, (stream.mem_eventsOf imageId entry).mpr ⟨listed, answers⟩, rfl⟩

theorem ascending_imagesOf : (stream.imagesOf imageId).Pairwise (· < ·) :=
  List.pairwise_map.mpr (SortedMap.ascending _)

theorem imagesOf_eq_nil_iff : stream.imagesOf imageId = [] ↔ stream.eventsOf imageId = [] := by
  rw [List.eq_nil_iff_forall_not_mem, List.eq_nil_iff_forall_not_mem]
  constructor
  · intro unnamed entry member
    exact unnamed entry.2.image ((stream.mem_imagesOf imageId _).mpr ⟨entry, member, rfl⟩)
  · intro unrecorded image named
    obtain ⟨entry, member, -⟩ := (stream.mem_imagesOf imageId image).mp named
    exact unrecorded entry member

theorem imagesOf_eq_singleton_iff (image : String) : stream.imagesOf imageId = [image] ↔
    stream.eventsOf imageId ≠ [] ∧ ∀ entry ∈ stream.eventsOf imageId, entry.2.image = image := by
  constructor
  · intro single
    refine ⟨fun none => ?_, fun entry member => ?_⟩
    · rw [← imagesOf_eq_nil_iff, single] at none
      cases none
    · have named := (stream.mem_imagesOf imageId _).mpr ⟨entry, member, rfl⟩
      rw [single] at named
      exact List.mem_singleton.mp named
  · intro single
    obtain ⟨nonempty, same⟩ := single
    have only (name : String) (named : name ∈ stream.imagesOf imageId) : name = image := by
      obtain ⟨entry, member, rfl⟩ := (stream.mem_imagesOf imageId name).mp named
      exact same entry member
    have ascending := stream.ascending_imagesOf imageId
    cases images : stream.imagesOf imageId with
    | nil => exact absurd ((stream.imagesOf_eq_nil_iff imageId).mp images) nonempty
    | cons first rest =>
      rw [images] at only ascending
      cases rest with
      | nil => rw [only first (.head _)]
      | cons second others =>
        -- Two names in ascending order differ, but both are the one image.
        have below := List.rel_of_pairwise_cons ascending (.head _)
        rw [only first (.head _), only second (.tail _ (.head _))] at below
        exact absurd below (String.lt_irrefl image)

/-- An id is resolved to the last of its events, if they are all of one image. -/
theorem resolveImageId_eq_ok_iff (event : TagEvent) : stream.resolveImageId imageId = .ok event ↔
    (∃ tag, (stream.eventsOf imageId).getLast? = some (tag, event)) ∧
      ∀ entry ∈ stream.eventsOf imageId, entry.2.image = event.image := by
  constructor
  · intro resolved
    unfold resolveImageId at resolved
    split at resolved
    · rename_i image tag last images found
      cases resolved
      obtain ⟨-, same⟩ := (stream.imagesOf_eq_singleton_iff imageId image).mp images
      have ofLast := same _ (List.mem_of_getLast? found)
      exact ⟨⟨tag, found⟩, fun entry member => (same entry member).trans ofLast.symm⟩
    · cases resolved
    · cases resolved
    · cases resolved
  · intro unique
    obtain ⟨⟨tag, found⟩, same⟩ := unique
    have nonempty := List.ne_nil_of_mem (List.mem_of_getLast? found)
    have images := (stream.imagesOf_eq_singleton_iff imageId _).mpr ⟨nonempty, same⟩
    rw [resolveImageId, images, found]

theorem exists_resolved_of_image {image : String} (answered : stream.eventsOf imageId ≠ [])
    (same : ∀ entry ∈ stream.eventsOf imageId, entry.2.image = image) :
    ∃ event, stream.resolveImageId imageId = .ok event ∧ event.image = image := by
  have last := List.getLast?_eq_some_getLast answered
  have ofLast := same _ (List.getLast_mem answered)
  exact ⟨_, (stream.resolveImageId_eq_ok_iff imageId _).mpr ⟨⟨_, last⟩,
    fun entry member => (same entry member).trans ofLast.symm⟩, ofLast⟩

theorem resolveImageId_eq_notFound (unrecorded : stream.eventsOf imageId = []) :
    stream.resolveImageId imageId = .error (.notFound imageId) := by
  rw [resolveImageId, (stream.imagesOf_eq_nil_iff imageId).mpr unrecorded]

/-- Of two different images neither is picked. -/
theorem resolveImageId_eq_ambiguous {first second : String × TagEvent}
    (firstAnswers : first ∈ stream.eventsOf imageId)
    (secondAnswers : second ∈ stream.eventsOf imageId)
    (different : first.2.image ≠ second.2.image) :
    stream.resolveImageId imageId = .error (.ambiguous imageId (stream.imagesOf imageId)) := by
  unfold resolveImageId
  split
  · rename_i image tag last images found
    obtain ⟨-, same⟩ := (stream.imagesOf_eq_singleton_iff imageId image).mp images
    exact absurd ((same first firstAnswers).trans (same second secondAnswers).symm) different
  · rename_i images
    rw [imagesOf_eq_nil_iff] at images
    exact absurd firstAnswers (images ▸ List.not_mem_nil)
  · rename_i found _
    rw [List.getLast?_eq_none_iff.mp found] at firstAnswers
    cases firstAnswers
  · rfl

section Digest

variable {stream} {digest : ContentDigest}

theorem Records.answers {name : String} (recorded : stream.Records name)
    (begins : digest.text.toList <+: name.toList) :
    ∃ entry ∈ stream.eventsOf digest.text, entry.2.image = name := by
  rw [← mem_imagesOf, mem_imagesOf_iff, imageMatchesId_text_iff]
  exact ⟨recorded, begins⟩

/-- A digest that is recorded is resolved, unless it begins another name that is recorded too. -/
theorem resolves_of_recorded (recorded : stream.Records digest.text)
    (alone : ∀ name, stream.Records name → digest.text.toList <+: name.toList →
      name = digest.text) :
    ∃ event, stream.resolveImageId digest.text = .ok event ∧ event.image = digest.text := by
  have same (entry : String × TagEvent) (member : entry ∈ stream.eventsOf digest.text) :
      entry.2.image = digest.text := by
    obtain ⟨listed, answers⟩ := (stream.mem_eventsOf digest.text entry).mp member
    exact alone _ ⟨entry, listed, rfl⟩ ((imageMatchesId_text_iff _ digest).mp answers)
  obtain ⟨_, member, -⟩ := recorded.answers List.prefix_rfl
  exact stream.exists_resolved_of_image digest.text (List.ne_nil_of_mem member) same

/-- A digest that is recorded and begins another recorded name is not resolved. -/
theorem ambiguous_of_extended (recorded : stream.Records digest.text) {name : String}
    (other : stream.Records name) (begins : digest.text.toList <+: name.toList)
    (different : name ≠ digest.text) :
    stream.resolveImageId digest.text =
      .error (.ambiguous digest.text (stream.imagesOf digest.text)) := by
  obtain ⟨first, firstAnswers, firstImage⟩ := other.answers begins
  obtain ⟨second, secondAnswers, secondImage⟩ := recorded.answers List.prefix_rfl
  apply stream.resolveImageId_eq_ambiguous digest.text firstAnswers secondAnswers
  rw [firstImage, secondImage]
  exact different

end Digest

/-- What is kept of a list of events is the first of those created last. -/
theorem foldl_laterEvent (entries : List (String × TagEvent)) (nonempty : entries ≠ []) :
    ∃ earlier latest later, entries = earlier ++ latest :: later ∧
      entries.foldl laterEvent none = some latest ∧
      (∀ entry ∈ earlier, entry.2.created < latest.2.created) ∧
      ∀ entry ∈ later, ¬ latest.2.created < entry.2.created := by
  -- The list grows at its end, as the events are met.
  induction entries using List.reverseRecOn with
  | nil => exact absurd rfl nonempty
  | append_singleton entries entry ih =>
    rw [List.foldl_append]
    by_cases only : entries = []
    · subst only
      exact ⟨[], entry, [], rfl, rfl, List.forall_mem_nil _, List.forall_mem_nil _⟩
    · obtain ⟨earlier, latest, later, rfl, kept, older, notNewer⟩ := ih only
      rw [kept, List.foldl_cons, List.foldl_nil, laterEvent]
      by_cases newer : latest.2.created < entry.2.created
      · refine ⟨earlier ++ latest :: later, entry, [], rfl, if_pos newer, ?_,
          List.forall_mem_nil _⟩
        intro other member
        rcases List.mem_append.mp member with before | after
        · exact Instant.lt_trans (older other before) newer
        · rcases List.mem_cons.mp after with rfl | after
          · exact newer
          · exact Instant.lt_of_not_lt_of_lt (notNewer other after) newer
      · refine ⟨earlier, latest, later ++ [entry], by simp, if_neg newer, older, ?_⟩
        intro other member
        rcases List.mem_append.mp member with after | last
        · exact notNewer other after
        · rw [List.mem_singleton.mp last]
          exact newer

theorem latestEvent?_spec (answered : stream.eventsOf imageId ≠ []) :
    ∃ earlier latest later, stream.eventsOf imageId = earlier ++ latest :: later ∧
      stream.latestEvent? imageId = some latest ∧
      (∀ entry ∈ earlier, entry.2.created < latest.2.created) ∧
      ∀ entry ∈ later, ¬ latest.2.created < entry.2.created :=
  foldl_laterEvent _ answered

section Resolved

variable {stream imageId} {event : TagEvent}

theorem exists_mem_eventsOf_of_resolved (resolved : stream.resolveImageId imageId = .ok event) :
    ∃ tag, (tag, event) ∈ stream.eventsOf imageId := by
  obtain ⟨⟨tag, last⟩, -⟩ := (stream.resolveImageId_eq_ok_iff imageId event).mp resolved
  exact ⟨tag, List.mem_of_getLast? last⟩

/-- What answers to an id that is resolved are the events of one image. -/
theorem mem_eventsOf_of_resolved (resolved : stream.resolveImageId imageId = .ok event)
    (entry : String × TagEvent) :
    entry ∈ stream.eventsOf imageId ↔ entry ∈ stream.events ∧ entry.2.image = event.image := by
  constructor
  · intro member
    have same := ((stream.resolveImageId_eq_ok_iff imageId event).mp resolved).2
    exact ⟨((stream.mem_eventsOf imageId entry).mp member).1, same entry member⟩
  · intro recorded
    obtain ⟨listed, image⟩ := recorded
    obtain ⟨tag, member⟩ := exists_mem_eventsOf_of_resolved resolved
    have answers := ((stream.mem_eventsOf imageId _).mp member).2
    exact (stream.mem_eventsOf imageId entry).mpr ⟨listed, image ▸ answers⟩

theorem answers_iff_of_resolved (resolved : stream.resolveImageId imageId = .ok event)
    {name : String} (recorded : stream.Records name) :
    imageMatchesId name imageId = true ↔ name = event.image := by
  obtain ⟨entry, listed, rfl⟩ := recorded
  have answering := mem_eventsOf_of_resolved resolved entry
  rw [mem_eventsOf] at answering
  simpa [listed] using answering

theorem exists_mem_events_of_resolved (resolved : stream.resolveImageId imageId = .ok event) :
    ∃ tag, (tag, event) ∈ stream.events := by
  obtain ⟨tag, member⟩ := exists_mem_eventsOf_of_resolved resolved
  exact ⟨tag, ((stream.mem_eventsOf imageId _).mp member).1⟩

/-- The event is the last one of its image in the history. -/
theorem last_of_resolved (resolved : stream.resolveImageId imageId = .ok event) :
    ∃ tag earlier later, stream.events = earlier ++ (tag, event) :: later ∧
      ∀ entry ∈ later, entry.2.image ≠ event.image := by
  obtain ⟨⟨tag, last⟩, -⟩ := (stream.resolveImageId_eq_ok_iff imageId event).mp resolved
  obtain ⟨answered, whole⟩ := List.getLast?_eq_some_iff.mp last
  obtain ⟨earlier, later, split, answers, -, noLater⟩ :=
    (stream.eventsOf_eq_append_cons_iff imageId).mp whole
  refine ⟨tag, earlier, later, split, fun entry member image => ?_⟩
  have unanswering := List.filter_eq_nil_iff.mp noLater entry member
  rw [image] at unanswering
  exact unanswering answers

theorem latestEvent?_of_resolved (resolved : stream.resolveImageId imageId = .ok event) :
    ∃ tag latest, stream.latestEvent? imageId = some (tag, latest) ∧
      (tag, latest) ∈ stream.eventsOf imageId ∧
      ∀ entry ∈ stream.eventsOf imageId, ¬ latest.created < entry.2.created := by
  obtain ⟨_, member⟩ := exists_mem_eventsOf_of_resolved resolved
  have answered := List.ne_nil_of_mem member
  obtain ⟨earlier, ⟨tag, latest⟩, later, split, found, older, notNewer⟩ :=
    stream.latestEvent?_spec imageId answered
  refine ⟨tag, latest, found, ?_, ?_⟩
  · rw [split]
    exact List.mem_append_right _ (.head _)
  · rw [split]
    intro entry member
    rcases List.mem_append.mp member with before | after
    · exact Instant.not_lt_of_lt (older entry before)
    · rcases List.mem_cons.mp after with rfl | after
      · exact Instant.lt_irrefl _
      · exact notNewer entry after

end Resolved

/-- Whenever an id is resolved, one of the events of the image was created last. The event that the
id is resolved to is the last one listed, and it was created last exactly if no event of the image
that is listed before it is newer. Unless different events of the image were created together, only
then are the two the same. -/
theorem resolved_event_is_latest_iff (event : TagEvent)
    (resolved : stream.resolveImageId imageId = .ok event) :
    ∃ tag latest, stream.latestEvent? imageId = some (tag, latest) ∧
      latest.image = event.image ∧
      (∀ entry ∈ stream.events, entry.2.image = event.image →
        ¬ latest.created < entry.2.created) ∧
      ∃ resolvedTag earlier later, stream.events = earlier ++ (resolvedTag, event) :: later ∧
        (∀ entry ∈ later, entry.2.image ≠ event.image) ∧
        (event.created = latest.created ↔
          ∀ entry ∈ earlier, entry.2.image = event.image → ¬ event.created < entry.2.created) ∧
        ((∀ first ∈ stream.events, ∀ second ∈ stream.events, first.2.image = event.image →
            second.2.image = event.image → first.2.created = second.2.created →
            first.2 = second.2) →
          (event = latest ↔ event.created = latest.created)) := by
  have answering := mem_eventsOf_of_resolved resolved
  obtain ⟨tag, latest, found, latestAnswers, newest⟩ := latestEvent?_of_resolved resolved
  obtain ⟨latestListed, latestImage⟩ := (answering (tag, latest)).mp latestAnswers
  have newestOfImage (entry : String × TagEvent) (listed : entry ∈ stream.events)
      (image : entry.2.image = event.image) : ¬ latest.created < entry.2.created :=
    newest entry ((answering entry).mpr ⟨listed, image⟩)
  obtain ⟨resolvedTag, earlier, later, split, noLater⟩ := last_of_resolved resolved
  have eventListed : (resolvedTag, event) ∈ stream.events := by
    rw [split]
    exact List.mem_append_right _ (.head _)
  refine ⟨tag, latest, found, latestImage, newestOfImage, resolvedTag, earlier, later, split,
    noLater, ⟨fun together entry member image => ?_, fun oldest => ?_⟩,
    fun distinct => ⟨congrArg TagEvent.created, fun together => ?_⟩⟩
  · rw [together]
    exact newestOfImage entry (split ▸ List.mem_append_left _ member) image
  · -- The latest event is not listed after the resolved one, so it is not newer.
    apply Instant.eq_of_not_lt _ (newestOfImage _ eventListed rfl)
    rw [split] at latestListed
    rcases List.mem_append.mp latestListed with before | after
    · exact oldest _ before latestImage
    · rcases List.mem_cons.mp after with same | after
      · rw [Prod.mk.injEq] at same
        rw [same.2]
        exact Instant.lt_irrefl _
      · exact absurd latestImage (noLater _ after)
  · exact distinct _ eventListed _ latestListed rfl latestImage together

end ImageStream

def firstPush : TagEvent where
  created := Pullthrough.newYear
  pullReference := "quay.io/ns/app:old"
  image := "sha256:aaaaaaaaaaaaaaaaaaaaaaaaaaaaaaaa"

def secondPush : TagEvent :=
  { firstPush with
    created := ⟨⟨2021, 1, 2⟩, 0, 0, 0, by decide⟩
    pullReference := "quay.io/ns/app:new" }

/-- An image that was pushed twice under one tag. The newest event comes first. -/
def renewedStream : ImageStream where
  status := { tags := [{ tag := "v1", events := [secondPush, firstPush] }] }

/-- The image is resolved to the older of its two events. -/
theorem renewed_image_resolves_to_older :
    ¬ ∀ event, renewedStream.resolveImageId firstPush.image = .ok event →
      ∃ tag latest, renewedStream.latestEvent? firstPush.image = some (tag, latest) ∧
        event.created = latest.created := by
  intro resolvesToLatest
  obtain ⟨tag, latest, found, together⟩ := resolvesToLatest firstPush (by decide +kernel)
  have newest : renewedStream.latestEvent? firstPush.image = some ("v1", secondPush) := by
    decide +kernel
  obtain ⟨rfl, rfl⟩ := Prod.mk.inj (Option.some.inj (newest.symm.trans found))
  exact absurd together (by decide)

/-- An image that was pushed under one tag first, and then under another one. -/
def promotedStream : ImageStream where
  status := { tags := [
    { tag := "v1", events := [firstPush] }, { tag := "v2", events := [secondPush] }] }

/-- The image is resolved to the event created last, under the second tag. -/
theorem promoted_image_resolves_to_latest :
    promotedStream.resolveImageId firstPush.image = .ok secondPush ∧
      ∃ tag, promotedStream.latestEvent? firstPush.image = some (tag, secondPush) := by
  have resolved : promotedStream.resolveImageId firstPush.image = .ok secondPush := by
    decide +kernel
  obtain ⟨tag, latest, found, -, -, _, earlier, later, split, -, together, same⟩ :=
    promotedStream.resolved_event_is_latest_iff firstPush.image secondPush resolved
  have noneNewer : ∀ entry ∈ promotedStream.events,
      ¬ secondPush.created < entry.2.created := by decide +kernel
  have distinct : ∀ first ∈ promotedStream.events, ∀ second ∈ promotedStream.events,
      first.2.created = second.2.created → first.2 = second.2 := by decide +kernel
  obtain rfl : secondPush = latest := by
    rw [same fun first member second member' _ _ => distinct first member second member',
      together]
    intro entry member _
    exact noneNewer entry (split ▸ List.mem_append_left _ member)
  exact ⟨resolved, tag, found⟩

end ContainerStreams
