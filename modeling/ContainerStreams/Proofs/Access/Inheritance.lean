import ContainerStreams.Proofs.Access.Display
import ContainerStreams.Proofs.Reference.RoundTrip

set_option autoImplicit false

namespace ContainerStreams

namespace Sources

variable {first second : Sources} {digest : ContentDigest} {stream : ImageStream}
  {layers : StreamLayers} {parent : String} {event : TagEvent} {reference : ImageReference}

theorem Inherited.mono (inherited : first.Inherited digest stream layers parent event reference)
    (within : first ≤ second) : second.Inherited digest stream layers parent event reference :=
  { inherited with
    streamAtHand := within.stream _ inherited.streamAtHand
    layersAtHand := within.layers _ inherited.layersAtHand }

end Sources

namespace StreamAccess

variable {σ : Type} [ControlPlane σ] (access : StreamAccess)

/-- An image that is not shown by its own record is shown by its parent, as it is cached then. -/
theorem inherited_of_resolve (digest : ContentDigest) {scope middle : Scope σ} {cause : Failure}
    (unrecorded : scope.exec (access.recordedImage digest).run = (.error cause, middle))
    {shown : DisplayImage} (shows : (scope.exec (access.resolve digest).run).1 = .ok shown) :
    let cache := (scope.exec (access.resolve digest).run).2.cache
    ∃ stream layers image parent event reference,
      (Sources.ofCache cache).Inherited digest stream layers parent event reference ∧
      cache.images.get? digest.text = some image ∧
      shown = .of image (access.defaults.pullSpec (reference.pinned digest)) := by
  rw [access.exec_resolve, unrecorded] at shows ⊢
  dsimp only at shows ⊢
  obtain ⟨sources, consults, answer⟩ := Answers.childImage access digest middle
  rw [answer] at shows
  obtain ⟨stream, layers, image, parent, event, reference, inherited, imageAtHand, rfl⟩ :=
    Sources.childImage_eq_ok_iff.mp shows
  have imageKept := consults.kept.image _ _ imageAtHand
  exact ⟨stream, layers, image, parent, event, reference, inherited.mono consults.kept,
    (Sources.image_ofCache_iff _ _ _).mp imageKept, rfl⟩

/-- An image that is shown by its parent differs from the stored one in nothing but its pull
reference. That reads as a reference to the parent's repository, to which only the library project
may have been added, without a tag and pinned to the digest. The stream, its layers and the image
are those that are cached afterwards. -/
theorem child_shown_in_parent_repository (digest : ContentDigest)
    (valid : ∀ library ∈ access.defaults.libraryProject, ImageReference.IsComponent library)
    (scope middle : Scope σ) (cause : Failure)
    (unrecorded : scope.exec (access.recordedImage digest).run = (.error cause, middle))
    (shown : Image) (shows : (scope.exec (access.resolve digest).run).1 = .ok ⟨shown⟩) :
    let cache := (scope.exec (access.resolve digest).run).2.cache
    ∃ stream layers image parent event reference target,
      cache.stream = some stream ∧ cache.layers = some layers ∧
      cache.images.get? digest.text = some image ∧
      layers.FirstParent digest parent ∧ stream.resolveImageId parent = .ok event ∧
      ImageReference.parse event.pullReference = .ok reference ∧
      shown = { image with pullReference := shown.pullReference } ∧
      ImageReference.parse shown.pullReference = .ok target ∧
      target.registry = reference.registry ∧ target.tag = none ∧
      target.imageId = some digest.text ∧
      target.repositoryPath =
        access.defaults.libraryPrefix reference ++ reference.repositoryPath := by
  intro cache
  obtain ⟨stream, layers, image, parent, event, reference, inherited, imageCached, same⟩ :=
    access.inherited_of_resolve digest unrecorded shows
  obtain ⟨readable, -⟩ := (ImageReference.parse_eq_ok_iff _ _).mp inherited.parses
  obtain ⟨target, parses, registry, tag, imageId, path⟩ :=
    access.defaults.parse_pullSpec (readable.pinned digest) valid
  rw [DisplayImage.of, DisplayImage.mk.injEq] at same
  subst same
  exact ⟨stream, layers, image, parent, event, reference, target,
    (Sources.stream_ofCache_iff _ _).mp inherited.streamAtHand,
    (Sources.layers_ofCache_iff _ _).mp inherited.layersAtHand, imageCached, inherited.isFirst,
    inherited.resolves, inherited.parses, rfl, parses, registry, tag, imageId, path⟩

end StreamAccess

/-- A manifest list that was pulled from the hub by one of its other hostnames. -/
def hubPlane : Scripted where
  registry := {
    streams := .ofList [("ns/app", { status := { tags := [{ tag := "v1", events := [
      listEvent "index.docker.io/busybox:v1" listDigest] }] } })]
    layers := .ofList [("ns/app", listsLayers)]
    images := .ofList [(childDigest.text, { manifestMediaType := "child" })] }

/-- The hostname is kept as it is, and the library project is added. -/
theorem child_shown_in_library :
    let access : StreamAccess := { project := "ns", name := "app" }
    let scope : Scope Scripted := { plane := hubPlane }
    let shown : Image := {
      pullReference := "index.docker.io/library/busybox@sha256:cccccccccccccccccccccccccccccccc"
      manifestMediaType := "child" }
    (∀ library ∈ access.defaults.libraryProject, ImageReference.IsComponent library) ∧
      (scope.exec (access.recordedImage childDigest).run).1 =
        .error (.imageUnresolved childDigest.text (.notFound childDigest.text)) ∧
      (scope.exec (access.resolve childDigest).run).1 = .ok ⟨shown⟩ ∧
      ∃ target, ImageReference.parse shown.pullReference = .ok target ∧ target.tag = none ∧
        target.imageId = some childDigest.text := by
  intro access scope shown
  have valid : ∀ library ∈ access.defaults.libraryProject,
      ImageReference.IsComponent library := by
    rintro _ ⟨⟩
    exact ⟨by decide, by decide⟩
  have unrecorded : (scope.exec (access.recordedImage childDigest).run).1 =
      .error (.imageUnresolved childDigest.text (.notFound childDigest.text)) := by
    decide +kernel
  have shows : (scope.exec (access.resolve childDigest).run).1 = .ok ⟨shown⟩ := by
    decide +kernel
  obtain ⟨_, _, _, _, _, _, target, -, -, -, -, -, -, -, parses, -, tag, imageId, -⟩ :=
    access.child_shown_in_parent_repository childDigest valid scope _ _
      (Prod.ext unrecorded rfl) shown shows
  exact ⟨valid, unrecorded, shows, target, parses, tag, imageId⟩

end ContainerStreams
