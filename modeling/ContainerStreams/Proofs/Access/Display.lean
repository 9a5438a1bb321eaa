import ContainerStreams.Proofs.Access.Run
import ContainerStreams.Proofs.Access.Settled
import ContainerStreams.Proofs.Pullthrough.Transport
import ContainerStreams.Proofs.Text.ByteOrder

set_option autoImplicit false

namespace ContainerStreams

namespace StreamLayers

def Lists (layers : StreamLayers) (parent : String) (digest : ContentDigest) : Prop :=
  ∃ references, layers.images.get? parent = some references ∧ digest.text ∈ references.manifests

/-- The first image that lists the digest, in the order of the bytes of the names. -/
structure FirstParent (layers : StreamLayers) (digest : ContentDigest) (parent : String) :
    Prop where
  lists : layers.Lists parent digest
  first : ∀ other, layers.Lists other digest → Text.bytes parent ≤ Text.bytes other

variable {layers : StreamLayers} {digest : ContentDigest} {parent other : String}

theorem FirstParent.eq (one : layers.FirstParent digest parent)
    (another : layers.FirstParent digest other) : parent = other :=
  String.le_antisymm ((Text.le_iff_bytes_le _ _).mpr (one.first other another.lists))
    ((Text.le_iff_bytes_le _ _).mpr (another.first parent one.lists))

theorem firstParent_of_parentOf? (found : layers.parentOf? digest = some parent) :
    layers.FirstParent digest parent := by
  obtain ⟨entry, isFirst, rfl⟩ := Option.map_eq_some_iff.mp found
  obtain ⟨child, before, after, entries, notBefore⟩ := List.find?_eq_some_iff_append.mp isFirst
  have listed := (layers.images.mem_entries_iff entry.1 entry.2).mp (by simp [entries])
  refine ⟨⟨entry.2, listed, List.contains_iff_mem.mp child⟩, fun other listing => ?_⟩
  obtain ⟨references, held, otherChild⟩ := listing
  have member := (layers.images.mem_entries_iff other references).mpr held
  have ascending := layers.images.ascending
  rw [entries] at member ascending
  rw [← Text.le_iff_bytes_le]
  rcases List.mem_append.mp member with earlier | rest
  · have unlisted := notBefore _ earlier
    simp [otherChild] at unlisted
  · rcases List.mem_cons.mp rest with same | later
    · rw [← same]
    · have below := (List.pairwise_cons.mp (List.pairwise_append.mp ascending).2.1).1
      exact le_of_lt (below _ later)

theorem not_lists_of_parentOf? (found : layers.parentOf? digest = none) :
    ¬ layers.Lists parent digest := by
  rintro ⟨references, held, child⟩
  have member := (layers.images.mem_entries_iff parent references).mpr held
  rw [parentOf?, Option.map_eq_none_iff, List.find?_eq_none] at found
  exact found _ member (List.contains_iff_mem.mpr child)

theorem parentOf?_eq_some_iff :
    layers.parentOf? digest = some parent ↔ layers.FirstParent digest parent := by
  refine ⟨firstParent_of_parentOf?, fun isFirst => ?_⟩
  cases found : layers.parentOf? digest with
  | none => exact absurd isFirst.lists (not_lists_of_parentOf? found)
  | some other => rw [(firstParent_of_parentOf? found).eq isFirst]

end StreamLayers

section Outcome

variable {ε ε' α β : Type} {result : Except ε α}

theorem bind_eq_ok_iff {next : α → Except ε β} {value : β} :
    result >>= next = .ok value ↔ ∃ found, result = .ok found ∧ next found = .ok value := by
  cases result with
  | error cause => exact ⟨nofun, fun ⟨_, failed, _⟩ => nomatch failed⟩
  | ok found => exact ⟨fun same => ⟨found, rfl, same⟩, fun ⟨_, rfl, same⟩ => same⟩

theorem bind_eq_error_iff {next : α → Except ε β} {error : ε} : result >>= next = .error error ↔
    result = .error error ∨ ∃ found, result = .ok found ∧ next found = .error error := by
  cases result with
  | error cause => simp [Bind.bind, Except.bind]
  | ok found => simp [Bind.bind, Except.bind]

theorem mapError_eq_ok_iff {change : ε → ε'} {value : α} :
    result.mapError change = .ok value ↔ result = .ok value := by
  cases result <;> simp [Except.mapError]

theorem mapError_eq_error_iff {change : ε → ε'} {error : ε'} : result.mapError change = .error error ↔
    ∃ cause, result = .error cause ∧ change cause = error := by
  cases result <;> simp [Except.mapError]

end Outcome

namespace Sources

/-- The stream itself records the digest, by the event, and the image is there. -/
structure Recorded (sources : Sources) (digest : ContentDigest) (stream : ImageStream)
    (image : Image) (event : TagEvent) : Prop where
  streamAtHand : sources.stream = .ok stream
  imageAtHand : sources.image digest = .ok image
  resolves : stream.resolveImageId digest.text = .ok event

/-- The stream records the first manifest list that the digest belongs to, by the event, and under
the reference. -/
structure Inherited (sources : Sources) (digest : ContentDigest) (stream : ImageStream)
    (layers : StreamLayers) (parent : String) (event : TagEvent) (reference : ImageReference) :
    Prop where
  streamAtHand : sources.stream = .ok stream
  layersAtHand : sources.layers = .ok layers
  isFirst : layers.FirstParent digest parent
  resolves : stream.resolveImageId parent = .ok event
  parses : ImageReference.parse event.pullReference = .ok reference

variable {sources : Sources} {digest : ContentDigest} {image : Image} {event : TagEvent}
  {defaults : DefaultRegistry} {shown : DisplayImage}

theorem eventOf_eq_ok_iff {imageId : String} : sources.eventOf imageId = .ok event ↔
    ∃ stream, sources.stream = .ok stream ∧ stream.resolveImageId imageId = .ok event := by
  simp only [eventOf, streamFor, bind_eq_ok_iff, mapError_eq_ok_iff]

theorem imageOf_eq_ok_iff : sources.imageOf digest = .ok image ↔
    sources.image digest = .ok image := mapError_eq_ok_iff

theorem storedImage_eq_ok_iff : sources.storedImage digest = .ok (image, event) ↔
    ∃ stream, sources.Recorded digest stream image event := by
  simp only [storedImage, bind_eq_ok_iff, eventOf_eq_ok_iff, imageOf_eq_ok_iff]
  constructor
  · rintro ⟨_, ⟨stream, streamAtHand, resolves⟩, _, imageAtHand, same⟩
    cases same
    exact ⟨stream, streamAtHand, imageAtHand, resolves⟩
  · rintro ⟨stream, recorded⟩
    exact ⟨event, ⟨stream, recorded.streamAtHand, recorded.resolves⟩, image,
      recorded.imageAtHand, rfl⟩

theorem recordedImage_eq_ok_iff : sources.recordedImage digest = .ok shown ↔
    ∃ stream image event, sources.Recorded digest stream image event ∧
      shown = .of image event.pullReference := by
  simp only [recordedImage, bind_eq_ok_iff]
  constructor
  · rintro ⟨⟨image, event⟩, stored, same⟩
    cases same
    obtain ⟨stream, recorded⟩ := storedImage_eq_ok_iff.mp stored
    exact ⟨stream, image, event, recorded, rfl⟩
  · rintro ⟨stream, image, event, recorded, rfl⟩
    exact ⟨(image, event), storedImage_eq_ok_iff.mpr ⟨stream, recorded⟩, rfl⟩

theorem referenceBy_eq_ok_iff {pinned : ImageReference} :
    referenceBy digest event = .ok pinned ↔
      ∃ reference, ImageReference.parse event.pullReference = .ok reference ∧
        reference.pinned digest = pinned := by
  unfold referenceBy
  cases ImageReference.parse event.pullReference <;> simp

theorem referenceIn_eq_ok_iff {layers : StreamLayers} {pinned : ImageReference} :
    sources.referenceIn digest layers = .ok pinned ↔
      ∃ parent event, layers.parentOf? digest = some parent ∧
        sources.eventOf parent = .ok event ∧ referenceBy digest event = .ok pinned := by
  unfold referenceIn
  cases layers.parentOf? digest <;> simp [bind_eq_ok_iff, mapError_eq_ok_iff]

theorem parentReference_eq_ok_iff {pinned : ImageReference} :
    sources.parentReference digest = .ok pinned ↔
      ∃ stream layers parent event reference,
        sources.Inherited digest stream layers parent event reference ∧
        reference.pinned digest = pinned := by
  simp only [parentReference, bind_eq_ok_iff, mapError_eq_ok_iff, referenceIn_eq_ok_iff,
    referenceBy_eq_ok_iff, eventOf_eq_ok_iff, StreamLayers.parentOf?_eq_some_iff]
  constructor
  · rintro ⟨layers, layersAtHand, parent, event, isFirst, ⟨stream, streamAtHand, resolves⟩,
      reference, parses, same⟩
    exact ⟨stream, layers, parent, event, reference,
      ⟨streamAtHand, layersAtHand, isFirst, resolves, parses⟩, same⟩
  · rintro ⟨stream, layers, parent, event, reference, inherited, same⟩
    exact ⟨layers, inherited.layersAtHand, parent, event, inherited.isFirst,
      ⟨stream, inherited.streamAtHand, inherited.resolves⟩, reference, inherited.parses, same⟩

theorem childImage_eq_ok_iff : sources.childImage defaults digest = .ok shown ↔
    ∃ stream layers image parent event reference,
      sources.Inherited digest stream layers parent event reference ∧
      sources.image digest = .ok image ∧
      shown = .of image (defaults.pullSpec (reference.pinned digest)) := by
  simp only [childImage, bind_eq_ok_iff, parentReference_eq_ok_iff, imageOf_eq_ok_iff]
  constructor
  · rintro ⟨_, ⟨stream, layers, parent, event, reference, inherited, rfl⟩, image, imageAtHand,
      same⟩
    cases same
    exact ⟨stream, layers, image, parent, event, reference, inherited, imageAtHand, rfl⟩
  · rintro ⟨stream, layers, image, parent, event, reference, inherited, imageAtHand, rfl⟩
    exact ⟨_, ⟨stream, layers, parent, event, reference, inherited, rfl⟩, image, imageAtHand, rfl⟩

/-- A child is shown only if the stream does not record the digest itself. -/
theorem shownImage_self_eq_ok_iff :
    sources.shownImage sources defaults digest = .ok shown ↔
      (∃ stream image event, sources.Recorded digest stream image event ∧
        shown = .of image event.pullReference) ∨
      ∃ stream layers image failure parent event reference,
        stream.resolveImageId digest.text = .error failure ∧
        sources.Inherited digest stream layers parent event reference ∧
        sources.image digest = .ok image ∧
        shown = .of image (defaults.pullSpec (reference.pinned digest)) := by
  unfold shownImage
  cases outcome : sources.recordedImage digest with
  | ok first =>
    obtain ⟨stream, image, event, recorded, rfl⟩ := recordedImage_eq_ok_iff.mp outcome
    constructor
    · intro same
      cases same
      exact Or.inl ⟨stream, image, event, recorded, rfl⟩
    · rintro (shows | ⟨other, _, _, failure, _, _, _, fails, inherited, -, -⟩)
      · exact outcome.symm.trans (recordedImage_eq_ok_iff.mpr shows)
      · have same := inherited.streamAtHand.symm.trans recorded.streamAtHand
        cases same
        cases fails.symm.trans recorded.resolves
  | error cause =>
    have unrecorded (image : DisplayImage) : sources.recordedImage digest ≠ .ok image := by
      simp [outcome]
    constructor
    · intro child
      obtain ⟨stream, layers, image, parent, event, reference, inherited, imageAtHand, rfl⟩ :=
        childImage_eq_ok_iff.mp child
      cases resolution : stream.resolveImageId digest.text with
      | ok event =>
        -- The image is at hand, so it would have been shown by this event.
        have recorded : sources.Recorded digest stream image event :=
          ⟨inherited.streamAtHand, imageAtHand, resolution⟩
        exact absurd (recordedImage_eq_ok_iff.mpr ⟨stream, image, event, recorded, rfl⟩)
          (unrecorded _)
      | error failure =>
        exact Or.inr ⟨stream, layers, image, failure, parent, event, reference, resolution,
          inherited, imageAtHand, rfl⟩
    · rintro (shows | ⟨stream, layers, image, _, parent, event, reference, -, child⟩)
      · exact absurd (recordedImage_eq_ok_iff.mpr shows) (unrecorded _)
      · exact childImage_eq_ok_iff.mpr ⟨stream, layers, image, parent, event, reference, child⟩

/-- Whichever way an image is shown, the stream and the image are found in the later sources. -/
theorem at_hand_of_shownImage {first second : Sources} (within : first ≤ second)
    (shows : first.shownImage second defaults digest = .ok shown) :
    ∃ stream image, second.stream = .ok stream ∧ second.image digest = .ok image := by
  unfold shownImage at shows
  cases outcome : first.recordedImage digest with
  | ok image =>
    obtain ⟨stream, image, event, recorded, -⟩ := recordedImage_eq_ok_iff.mp outcome
    exact ⟨stream, image, within.stream _ recorded.streamAtHand,
      within.image _ _ recorded.imageAtHand⟩
  | error cause =>
    rw [outcome] at shows
    obtain ⟨stream, layers, image, parent, event, reference, inherited, imageAtHand, -⟩ :=
      childImage_eq_ok_iff.mp shows
    exact ⟨stream, image, inherited.streamAtHand, imageAtHand⟩

end Sources

namespace StreamAccess

variable {σ : Type} [ControlPlane σ] (access : StreamAccess)

theorem foldl_turn_image_kept (scope : Scope σ) (turns : List Turn) {name : String}
    {image : Image} (cached : scope.cache.images.get? name = some image) :
    (turns.foldl access.turn scope).cache.images.get? name = some image := by
  apply List.foldlRecOn (motive := fun scope : Scope σ =>
    scope.cache.images.get? name = some image) turns access.turn cached
  intro scope kept turn _
  exact (turn.operation.evolves access { scope with cancelled := turn.cancelled }).image_kept kept

theorem storedImage_of_cached (scope : Scope σ) {digest : ContentDigest} {stream : ImageStream}
    {image : Image} {event : TagEvent} (streamCached : scope.cache.stream = some stream)
    (imageCached : scope.cache.images.get? digest.text = some image)
    (resolves : stream.resolveImageId digest.text = .ok event) :
    (scope.exec (access.storedImage digest).run).1 = .ok (image, event) := by
  obtain ⟨sources, consults, answer⟩ := Answers.storedImage access digest scope
  rw [answer]
  exact Sources.storedImage_eq_ok_iff.mpr ⟨stream,
    consults.known.stream _ ((Sources.stream_ofCache_iff _ _).mpr streamCached),
    consults.known.image _ _ ((Sources.image_ofCache_iff _ _ _).mpr imageCached), resolves⟩

section Resolve

variable {access} {digest : ContentDigest} {answers : FixedAnswers} {scope : Scope σ}

/-- If the stream records the digest itself, its layers are not asked for. -/
theorem calls_of_recorded (served : scope.Served answers) {stream : ImageStream} {image : Image}
    {event : TagEvent}
    (recorded : (access.available answers scope.cache).Recorded digest stream image event) :
    ∃ calls, (scope.exec (access.resolve digest).run).2.journal = scope.journal ++ calls ∧
      ∀ exchange ∈ calls, exchange.request.fetchesRecord = true := by
  obtain ⟨after, outcome, reaches⟩ := Settles.recordedImage access digest answers scope served
  have shown := Sources.recordedImage_eq_ok_iff.mpr ⟨stream, image, event, recorded, rfl⟩
  dsimp only at outcome
  rw [access.exec_resolve, outcome, shown]
  exact reaches.evolves.calls

/-- Whatever is shown, the stream and the image as they can be read are cached by then. -/
theorem cached_of_resolve (served : scope.Served answers) {shown : DisplayImage}
    (shows : (scope.exec (access.resolve digest).run).1 = .ok shown) :
    ∃ stream image, (access.available answers scope.cache).stream = .ok stream ∧
      (access.available answers scope.cache).image digest = .ok image ∧
      (scope.exec (access.resolve digest).run).2.cache.stream = some stream ∧
      (scope.exec (access.resolve digest).run).2.cache.images.get? digest.text = some image := by
  obtain ⟨after, outcome, reaches⟩ := Settles.resolve access digest answers scope served
  obtain ⟨first, middle, second, early, late, answer⟩ :=
    AnswersTwice.resolve access digest scope
  rw [answer] at shows
  obtain ⟨stream, image, streamFound, imageFound⟩ :=
    Sources.at_hand_of_shownImage (early.le late) shows
  have streamCached := (Sources.stream_ofCache_iff _ _).mp (late.kept.stream _ streamFound)
  have imageCached := (Sources.image_ofCache_iff _ _ _).mp (late.kept.image _ _ imageFound)
  rw [outcome] at streamCached imageCached ⊢
  refine ⟨stream, image, ?_, ?_, streamCached, imageCached⟩
  -- What can be read is the same before and after, and afterwards it is what is cached.
  · rw [← reaches.available, available, streamCached, Option.elim_some]
  · rw [← reaches.available]
    change (after.cache.images.get? digest.text).elim _ _ = _
    rw [imageCached, Option.elim_some]

end Resolve

/-- As long as every fetch has its fixed answer and nothing is cancelled, an image is shown exactly
in two cases. Either the stream records the digest, and the image is shown with the reference of
that event, without a look at the layers. Or the stream does not, but it records the first manifest
list that the digest belongs to, and the image is shown with the reference of the list, pinned to
the digest. What is cached is the image as it is, in both cases, and it remains so. -/
theorem resolve_ok_iff (digest : ContentDigest) (answers : FixedAnswers) (scope : Scope σ)
    (live : scope.cancelled = false) (fixed : ControlPlane.Fixed scope.plane answers) :
    let sources := access.available answers scope.cache
    let result := (scope.exec (access.resolve digest).run).1
    let after := (scope.exec (access.resolve digest).run).2
    (∀ shown, result = .ok ⟨shown⟩ ↔
      (∃ stream image event, sources.Recorded digest stream image event ∧
        shown = { image with pullReference := event.pullReference }) ∨
      ∃ stream layers image failure parent event reference,
        stream.resolveImageId digest.text = .error failure ∧
        sources.Inherited digest stream layers parent event reference ∧
        sources.image digest = .ok image ∧
        shown = { image with
          pullReference := access.defaults.pullSpec (reference.pinned digest) }) ∧
    (∀ stream image event, sources.Recorded digest stream image event →
      ∃ calls, after.journal = scope.journal ++ calls ∧
        ∀ exchange ∈ calls, exchange.request.fetchesRecord = true) ∧
    ∀ shown, result = .ok shown → ∃ stream image,
      sources.stream = .ok stream ∧ sources.image digest = .ok image ∧
      after.cache.stream = some stream ∧ after.cache.images.get? digest.text = some image ∧
      ∀ (turns : List Turn) (cancelled : Bool) standing event,
        let later : Scope σ := { turns.foldl access.turn after with cancelled }
        later.cache.stream = some standing →
        standing.resolveImageId digest.text = .ok event →
        (later.exec (access.storedImage digest).run).1 = .ok (image, event) := by
  intro sources result after
  have served : scope.Served answers := ⟨live, fixed⟩
  refine ⟨fun shown => ?_, fun stream image event recorded => calls_of_recorded served recorded,
    fun shown shows => ?_⟩
  · have answer : result = sources.shownImage sources access.defaults digest := by
      obtain ⟨left, outcome, -⟩ := Settles.resolve access digest answers scope served
      exact congrArg Prod.fst outcome
    rw [answer, Sources.shownImage_self_eq_ok_iff]
    simp only [DisplayImage.of, DisplayImage.mk.injEq]
  · obtain ⟨stream, image, streamAtHand, imageAtHand, streamCached, imageCached⟩ :=
      cached_of_resolve served shows
    refine ⟨stream, image, streamAtHand, imageAtHand, streamCached, imageCached, ?_⟩
    intro turns cancelled standing event later standingCached resolves
    exact access.storedImage_of_cached later standingCached
      (access.foldl_turn_image_kept _ turns imageCached) resolves

end StreamAccess

theorem isAlgorithm_sha256 : ContentDigest.isAlgorithm "sha256".toList = true := by decide

theorem isHexValue_replicate {digit : Char} (isHex : ContentDigest.isHexDigit digit = true) :
    ContentDigest.isHexValue (String.ofList (List.replicate 32 digit)).toList = true := by
  simp [ContentDigest.isHexValue, isHex]

def repeatedDigest (digit : Char) (isHex : ContentDigest.isHexDigit digit = true) :
    ContentDigest :=
  ⟨"sha256", String.ofList (List.replicate 32 digit), isAlgorithm_sha256,
    isHexValue_replicate isHex⟩

def childDigest : ContentDigest := repeatedDigest 'c' (by decide)

def listDigest : ContentDigest := repeatedDigest 'a' (by decide)

def listEvent (pullReference : String) (list : ContentDigest) : TagEvent where
  created := Pullthrough.newYear
  pullReference
  image := list.text

/-- A stream of two manifest lists. -/
def listsStream : ImageStream where
  status := { tags := [{ tag := "v1", events := [
    listEvent "quay.io/ns/second:v1" (repeatedDigest 'b' (by decide)),
    listEvent "quay.io/ns/first:v1" (repeatedDigest 'a' (by decide))] }] }

def listsLayers : StreamLayers where
  images := .ofList [
    ((repeatedDigest 'b' (by decide)).text, { manifests := [childDigest.text] }),
    ((repeatedDigest 'a' (by decide)).text, { manifests := [childDigest.text] })]

def listsPlane : Scripted where
  registry := {
    streams := .ofList [("ns/app", listsStream)]
    layers := .ofList [("ns/app", listsLayers)]
    images := .ofList [(childDigest.text, { manifestMediaType := "child" })] }

/-- The child is shown by the reference of the list whose name comes first. -/
theorem child_shown_by_first_list :
    let access : StreamAccess := { project := "ns", name := "app" }
    let scope : Scope Scripted := { plane := listsPlane }
    scope.cancelled = false ∧ ControlPlane.Fixed scope.plane listsPlane.answers ∧
      (scope.exec (access.resolve childDigest).run).1 = .ok ⟨{
        pullReference := "quay.io/ns/first@sha256:cccccccccccccccccccccccccccccccc"
        manifestMediaType := "child" }⟩ := by
  intro access scope
  have fixed : ControlPlane.Fixed scope.plane listsPlane.answers :=
    Scripted.fixed fun operation => rfl
  have isFirst : listsLayers.FirstParent childDigest (repeatedDigest 'a' (by decide)).text :=
    StreamLayers.parentOf?_eq_some_iff.mp (by decide +kernel)
  have inherited : (access.available listsPlane.answers scope.cache).Inherited childDigest
      listsStream listsLayers (repeatedDigest 'a' (by decide)).text
      (listEvent "quay.io/ns/first:v1" (repeatedDigest 'a' (by decide)))
      { registry := some ⟨"quay.io", none, by decide, by decide⟩, project := some "ns"
        name := "first", tag := some "v1" } :=
    { streamAtHand := by decide +kernel
      layersAtHand := by decide +kernel
      isFirst
      resolves := by decide +kernel
      parses := by decide +kernel }
  obtain ⟨shows, -, -⟩ :=
    access.resolve_ok_iff childDigest listsPlane.answers scope rfl fixed
  have unrecorded : listsStream.resolveImageId childDigest.text =
      .error (.notFound childDigest.text) := by decide +kernel
  have imageAtHand : (access.available listsPlane.answers scope.cache).image childDigest =
      .ok { manifestMediaType := "child" } := by decide +kernel
  refine ⟨rfl, fixed, (shows _).mpr (Or.inr ⟨_, _, _, _, _, _, _, unrecorded, inherited,
    imageAtHand, ?_⟩)⟩
  decide +kernel

end ContainerStreams
