import ContainerStreams.Proofs.Access.Display
import ContainerStreams.Proofs.Access.Provisioning
import ContainerStreams.Proofs.History.Lookup

set_option autoImplicit false

namespace ContainerStreams

namespace ImageStream

theorem heads_subset_events (stream : ImageStream) : stream.heads ⊆ stream.events := by
  intro entry member
  obtain ⟨history, listed, isHead⟩ := List.mem_flatMap.mp member
  obtain ⟨event, first, rfl⟩ := List.mem_map.mp isHead
  exact List.mem_flatMap.mpr ⟨history, listed, List.mem_map_of_mem (List.mem_of_mem_take first)⟩

theorem records_of_currentTags {stream : ImageStream} {tag : String} {digest : ContentDigest}
    (pointsTo : stream.currentTags.get? tag = some digest) : stream.Records digest.text := by
  have listed := SortedMap.mem_of_get?_ofList pointsTo
  obtain ⟨⟨headTag, event⟩, isHead, read⟩ := List.mem_filterMap.mp listed
  obtain ⟨found, parses, same⟩ := Option.map_eq_some_iff.mp read
  cases same
  refine ⟨_, stream.heads_subset_events isHead, ?_⟩
  cases parsed : ContentDigest.parse event.image with
  | error cause =>
    rw [parsed] at parses
    cases parses
  | ok other =>
    rw [parsed] at parses
    cases parses
    exact ((ContentDigest.parse_eq_ok_iff _ _).mp parsed).symm

end ImageStream

namespace StreamAccess

variable {σ : Type} [ControlPlane σ] (access : StreamAccess)

/-- In any run, an image that is answered as stored under a digest is one that the control plane
has returned under it. The event belongs to the one recorded image whose name the digest begins.
That is the digest itself exactly if the stream records the digest. -/
theorem stored_under_digest_iff (plane : σ) (turns : List Turn) (cancelled : Bool)
    (digest : ContentDigest) (image : Image) (event : TagEvent) :
    let scope : Scope σ := { access.run plane turns with cancelled }
    let outcome := scope.exec (access.storedImage digest).run
    outcome.1 = .ok (image, event) →
      (∃ exchange ∈ outcome.2.journal, exchange.fetchedImage? digest.text = some image) ∧
      ∃ stream, outcome.2.cache.stream = some stream ∧
        (∃ tag, (tag, event) ∈ stream.events) ∧
        (∀ name, stream.Records name →
          (digest.text.toList <+: name.toList ↔ name = event.image)) ∧
        (event.image = digest.text ↔ stream.Records digest.text) := by
  intro scope outcome answered
  have run := access.run_accounted plane turns
  obtain ⟨sources, consults, answer⟩ := Answers.storedImage access digest scope
  have records := (consults.evolves.accounted ⟨run.records, run.once⟩).records
  obtain ⟨stream, recorded⟩ := Sources.storedImage_eq_ok_iff.mp (answer.symm.trans answered)
  have streamCached :=
    (Sources.stream_ofCache_iff _ _).mp (consults.kept.stream _ recorded.streamAtHand)
  have imageCached :=
    (Sources.image_ofCache_iff _ _ _).mp (consults.kept.image _ _ recorded.imageAtHand)
  rw [records.images] at imageCached
  obtain ⟨tag, listed⟩ := ImageStream.exists_mem_events_of_resolved recorded.resolves
  have only (name : String) (recordsName : stream.Records name) :
      digest.text.toList <+: name.toList ↔ name = event.image := by
    rw [← imageMatchesId_text_iff]
    exact ImageStream.answers_iff_of_resolved recorded.resolves recordsName
  refine ⟨List.exists_of_findSome?_eq_some imageCached, stream, streamCached, ⟨tag, listed⟩, only,
    fun same => ⟨_, listed, same⟩, fun recordsDigest => ?_⟩
  exact ((only digest.text recordsDigest).mp List.prefix_rfl).symm

section Extended

abbrev shortDigest : ContentDigest := listDigest

def longerDigest : ContentDigest :=
  ⟨"sha256", String.ofList (List.replicate 33 'a'), isAlgorithm_sha256, by decide⟩

def tagTo (tag : String) (digest : ContentDigest) : TagHistory where
  tag
  events := [{ created := Pullthrough.newYear, pullReference := "quay.io/ns/app:" ++ tag
               image := digest.text }]

/-- A stream with the given tags, and an image of another repository under the short digest. -/
def taggedPlane (tags : List TagHistory) : Scripted where
  registry := {
    streams := .ofList [("ns/app", { status := { tags } })]
    images := .ofList [(shortDigest.text, { pullReference := "quay.io/other/private:v1" })] }

theorem tagged_image_is_recorded :
    let after := ((app.run (taggedPlane [tagTo "v1" shortDigest]) []).exec
      (app.storedImage shortDigest).run).2
    ∃ stream, after.cache.stream = some stream ∧ stream.Records shortDigest.text := by
  intro after
  have stored : ((app.run (taggedPlane [tagTo "v1" shortDigest]) []).exec
      (app.storedImage shortDigest).run).1 =
      .ok ({ pullReference := "quay.io/other/private:v1" },
        { created := Pullthrough.newYear, pullReference := "quay.io/ns/app:v1"
          image := shortDigest.text }) := by
    decide +kernel
  obtain ⟨-, stream, cached, -, -, records_iff⟩ :=
    app.stored_under_digest_iff (taggedPlane [tagTo "v1" shortDigest]) [] false shortDigest _ _
      stored
  exact ⟨stream, cached, records_iff.mp rfl⟩

/-- The image of another repository is answered as stored in the stream, which records nothing but
the longer digest. -/
theorem longer_name_admits_image :
    ¬ ∀ image event, ((app.run (taggedPlane [tagTo "v1" longerDigest]) []).exec
        (app.storedImage shortDigest).run).1 = .ok (image, event) →
      event.image = shortDigest.text := by
  intro isExact
  have stored : ((app.run (taggedPlane [tagTo "v1" longerDigest]) []).exec
      (app.storedImage shortDigest).run).1 =
      .ok ({ pullReference := "quay.io/other/private:v1" },
        { created := Pullthrough.newYear, pullReference := "quay.io/ns/app:v1"
          image := longerDigest.text }) := by
    decide +kernel
  exact absurd (isExact _ _ stored) (by decide +kernel)

end Extended

/-- Questions leave what is cached as it is. -/
theorem foldl_turn_cache_le (scope : Scope σ) (reads : List Turn)
    (onlyReads : ∀ turn ∈ reads, ∃ question, turn.operation = .read question) :
    Sources.ofCache scope.cache ≤ Sources.ofCache (reads.foldl access.turn scope).cache := by
  apply List.foldlRecOn (motive := fun later : Scope σ =>
    Sources.ofCache scope.cache ≤ Sources.ofCache later.cache) reads access.turn (le_refl _)
  intro later kept turn member
  obtain ⟨operation, cancelled⟩ := turn
  obtain ⟨question, rfl⟩ := onlyReads _ member
  obtain ⟨first, middle, second, early, late, -⟩ :=
    question.answersTwice access { later with cancelled }
  exact le_trans kept (le_trans early.known (le_trans (early.le late) late.kept))

theorem resolveImageId_of_cached (scope : Scope σ) (digest : ContentDigest) {stream : ImageStream}
    (cached : (Sources.ofCache scope.cache).stream = .ok stream) :
    (scope.exec (access.resolveImageId digest).run).1 =
      (stream.resolveImageId digest.text).mapError (Failure.imageUnresolved digest.text) := by
  obtain ⟨sources, consults, answer⟩ := Answers.eventOf access digest.text scope
  rw [resolveImageId, answer]
  dsimp only [Sources.eventOf, Sources.streamFor]
  rw [consults.known.stream _ cached]
  rfl

/-- Once the tags have been answered, whatever else is asked, the digest that a tag points to is
recorded in the stream. It is resolved to an event of its own unless it begins another recorded
name. In that case the failure lists all recorded names that it begins. -/
theorem tag_resolves_unless_extended (scope : Scope σ) (current : SortedMap ContentDigest)
    (answered : (scope.exec access.tags.run).1 = .ok current) (reads : List Turn)
    (onlyReads : ∀ turn ∈ reads, ∃ question, turn.operation = .read question) (cancelled : Bool) :
    let after := (scope.exec access.tags.run).2
    let later : Scope σ := { reads.foldl access.turn after with cancelled }
    ∃ stream, after.cache.stream = some stream ∧
      ∀ tag digest, current.get? tag = some digest →
        let answer := (later.exec (access.resolveImageId digest).run).1
        let extended := ∃ name, stream.Records name ∧ digest.text.toList <+: name.toList ∧
          name ≠ digest.text
        stream.Records digest.text ∧
          (¬ extended → ∃ event, answer = .ok event ∧ event.image = digest.text) ∧
          (extended → ∃ names,
            answer = .error (.imageUnresolved digest.text (.ambiguous digest.text names)) ∧
            names.Pairwise (· < ·) ∧
            ∀ name, name ∈ names ↔ stream.Records name ∧ digest.text.toList <+: name.toList) := by
  intro after later
  obtain ⟨sources, consults, answer⟩ := Answers.tags access scope
  rw [answered] at answer
  dsimp only [Sources.streamFor] at answer
  cases found : sources.stream with
  | error cause =>
    rw [found] at answer
    cases answer
  | ok stream =>
    rw [found] at answer
    obtain rfl : current = stream.currentTags := Except.ok.inj answer
    have cached := consults.kept.stream _ found
    refine ⟨stream, (Sources.stream_ofCache_iff _ _).mp cached, fun tag digest pointsTo => ?_⟩
    intro answer extended
    have recorded := ImageStream.records_of_currentTags pointsTo
    have still := (access.foldl_turn_cache_le after reads onlyReads).stream _ cached
    have resolution := access.resolveImageId_of_cached later digest still
    refine ⟨recorded, fun unextended => ?_, fun ⟨name, other, begins, different⟩ => ?_⟩
    · obtain ⟨event, resolves, image⟩ :=
        ImageStream.resolves_of_recorded recorded fun name other begins =>
          Classical.byContradiction fun different => unextended ⟨name, other, begins, different⟩
      rw [resolves] at resolution
      exact ⟨event, resolution, image⟩
    · rw [ImageStream.ambiguous_of_extended recorded other begins different] at resolution
      refine ⟨_, resolution, stream.ascending_imagesOf _, fun name => ?_⟩
      rw [ImageStream.mem_imagesOf_iff, imageMatchesId_text_iff]

/-- A tag that is alone is followed, also after another question. -/
theorem single_tag_is_followed :
    let scope : Scope Scripted := { plane := taggedPlane [tagTo "v1" shortDigest] }
    let reads : List Turn := [{ operation := .read .streamExists }]
    let later : Scope Scripted :=
      { reads.foldl app.turn (scope.exec app.tags.run).2 with cancelled := true }
    (scope.exec app.tags.run).1 = .ok (.ofList [("v1", shortDigest)]) ∧
      ∃ event, (later.exec (app.resolveImageId shortDigest).run).1 = .ok event ∧
        event.image = shortDigest.text := by
  intro scope reads later
  have answered : (scope.exec app.tags.run).1 = .ok (.ofList [("v1", shortDigest)]) := by
    decide +kernel
  have onlyReads : ∀ turn ∈ reads, ∃ question, turn.operation = .read question := by
    intro turn member
    rw [List.mem_singleton.mp member]
    exact ⟨.streamExists, rfl⟩
  obtain ⟨stream, cached, followed⟩ :=
    app.tag_resolves_unless_extended scope _ answered reads onlyReads true
  obtain ⟨-, resolves, -⟩ := followed "v1" shortDigest (by decide +kernel)
  have kept : (scope.exec app.tags.run).2.cache.stream =
      some { status := { tags := [tagTo "v1" shortDigest] } } := by decide +kernel
  rw [kept] at cached
  cases cached
  refine ⟨answered, resolves ?_⟩
  rintro ⟨name, ⟨entry, listed, rfl⟩, -, different⟩
  obtain rfl := List.mem_singleton.mp listed
  exact different rfl

/-- A tag that points to a shorter digest than another one cannot be followed. -/
theorem shorter_digest_is_ambiguous :
    let scope : Scope Scripted :=
      { plane := taggedPlane [tagTo "v1" shortDigest, tagTo "v2" longerDigest] }
    let (answer, after) := scope.exec app.tags.run
    ¬ ∀ current, answer = .ok current → ∀ tag digest, current.get? tag = some digest →
      ∃ event, (after.exec (app.resolveImageId digest).run).1 = .ok event ∧
        event.image = digest.text := by
  intro scope followed
  have answered : (scope.exec app.tags.run).1 =
      .ok (.ofList [("v1", shortDigest), ("v2", longerDigest)]) := by decide +kernel
  obtain ⟨event, resolves, -⟩ := followed _ answered "v1" shortDigest (by decide +kernel)
  have ambiguous : ((scope.exec app.tags.run).2.exec
      (app.resolveImageId shortDigest).run).1 = .error (.imageUnresolved shortDigest.text
        (.ambiguous shortDigest.text [shortDigest.text, longerDigest.text])) := by
    decide +kernel
  cases ambiguous.symm.trans resolves

end StreamAccess

end ContainerStreams
