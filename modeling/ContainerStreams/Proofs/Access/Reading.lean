import ContainerStreams.Access.Queries
import ContainerStreams.Access.Resolve
import ContainerStreams.Proofs.Access.Sources

set_option autoImplicit false

namespace ContainerStreams

namespace Sources

variable (sources : Sources)

def streamFor (query : StreamQuery) : Except Failure ImageStream :=
  sources.stream.mapError (Failure.streamUnavailable query)

def eventOf (imageId : String) : Except Failure TagEvent := do
  let stream ← sources.streamFor .resolveImageId
  (stream.resolveImageId imageId).mapError (Failure.imageUnresolved imageId)

def imageOf (digest : ContentDigest) : Except Failure Image :=
  (sources.image digest).mapError (Failure.imageUnavailable digest)

def storedImage (digest : ContentDigest) : Except Failure (Image × TagEvent) := do
  let event ← sources.eventOf digest.text
  let image ← sources.imageOf digest
  return (image, event)

def referenceBy (digest : ContentDigest) (event : TagEvent) : Except Failure ImageReference :=
  match ImageReference.parse event.pullReference with
  | .ok reference => .ok (reference.pinned digest)
  | .error cause => .error (.parentUnreadable event.pullReference cause)

def referenceIn (digest : ContentDigest) (layers : StreamLayers) : Except Failure ImageReference :=
  match layers.parentOf? digest with
  | none => .error (.parentMissing digest)
  | some parent => do
    let event ← (sources.eventOf parent).mapError (Failure.parentUnresolved parent)
    referenceBy digest event

def parentReference (digest : ContentDigest) : Except Failure ImageReference := do
  let layers ← sources.layers.mapError Failure.layersUnavailable
  sources.referenceIn digest layers

def recordedImage (digest : ContentDigest) : Except Failure DisplayImage := do
  let (image, event) ← sources.storedImage digest
  return .of image event.pullReference

def childImage (defaults : DefaultRegistry) (digest : ContentDigest) :
    Except Failure DisplayImage := do
  let reference ← sources.parentReference digest
  let image ← sources.imageOf digest
  return .of image (defaults.pullSpec reference)

/-- The image to show. The second sources are those that a child is looked for in, after the first
did not give the image by its own record. -/
def shownImage (first second : Sources) (defaults : DefaultRegistry) (digest : ContentDigest) :
    Except Failure DisplayImage :=
  match first.recordedImage digest with
  | .ok image => .ok image
  | .error _ => second.childImage defaults digest

def existence : Except LookupFailure ImageStream → Except Failure Bool
  | .ok _ => .ok true
  | .error (.notFound _) => .ok false
  | .error cause => .error (.streamUnavailable .exists cause)

def blob (digest : ContentDigest) :
    Except LookupFailure StreamLayers → Bool × Option StreamLayers
  | .ok layers => (layers.hasBlob digest.text, some layers)
  | .error _ => (false, none)

end Sources

variable {σ : Type} [ControlPlane σ] (access : StreamAccess)

namespace Answers

theorem streamFor (query : StreamQuery) :
    Answers (σ := σ) (access.streamFor query).run (·.streamFor query) :=
  (fetchStream access).adapt (Failure.streamUnavailable query)

theorem eventOf (imageId : String) :
    Answers (σ := σ) (access.eventOf imageId).run (·.eventOf imageId) := by
  apply (streamFor access .resolveImageId).bind (Steady.stream.mapError _)
  intro stream
  cases stream.resolveImageId imageId with
  | error cause => exact pure _
  | ok event => exact pure _

theorem imageOf (digest : ContentDigest) :
    Answers (σ := σ) (StreamAccess.imageOf digest).run (·.imageOf digest) :=
  (fetchImage digest).adapt (Failure.imageUnavailable digest)

end Answers

namespace Steady

theorem streamFor (query : StreamQuery) : Steady fun sources => sources.streamFor query :=
  stream.mapError (Failure.streamUnavailable query)

theorem eventOf (imageId : String) : Steady fun sources => sources.eventOf imageId := by
  apply (streamFor .resolveImageId).bind
  intro stream
  exact const _

theorem imageOf (digest : ContentDigest) : Steady fun sources => sources.imageOf digest :=
  (image digest).mapError (Failure.imageUnavailable digest)

theorem storedImage (digest : ContentDigest) :
    Steady fun sources => sources.storedImage digest := by
  apply (eventOf digest.text).bind
  intro event
  apply (imageOf digest).bind
  intro image
  exact const _

theorem parentReference (digest : ContentDigest) :
    Steady fun sources => sources.parentReference digest := by
  apply (layers.mapError Failure.layersUnavailable).bind
  intro layers
  unfold Sources.referenceIn
  cases layers.parentOf? digest with
  | none => exact const _
  | some parent =>
    apply ((eventOf parent).mapError (Failure.parentUnresolved parent)).bind
    intro event
    exact const _

end Steady

namespace Answers

theorem storedImage (digest : ContentDigest) :
    Answers (σ := σ) (access.storedImage digest).run (·.storedImage digest) := by
  apply (eventOf access digest.text).bind (Steady.eventOf digest.text)
  intro event
  apply (imageOf digest).bind (Steady.imageOf digest)
  intro image
  exact pure _

theorem parentReference (digest : ContentDigest) :
    Answers (σ := σ) (access.parentReference digest).run (·.parentReference digest) := by
  have fetched := (fetchLayers (σ := σ) access).adapt Failure.layersUnavailable
  apply fetched.bind (Steady.layers.mapError Failure.layersUnavailable)
  intro layers
  unfold Sources.referenceIn
  cases layers.parentOf? digest with
  | none => exact pure _
  | some parent =>
    have resolved := (eventOf (σ := σ) access parent).adapt (Failure.parentUnresolved parent)
    apply resolved.bind ((Steady.eventOf parent).mapError _)
    intro event
    unfold Sources.referenceBy
    cases ImageReference.parse event.pullReference with
    | error cause => exact pure _
    | ok reference => exact pure _

theorem recordedImage (digest : ContentDigest) :
    Answers (σ := σ) (access.recordedImage digest).run (·.recordedImage digest) := by
  apply (storedImage access digest).bind (Steady.storedImage digest)
  intro found
  exact pure _

theorem childImage (digest : ContentDigest) :
    Answers (σ := σ) (access.childImage digest).run (·.childImage access.defaults digest) := by
  apply (parentReference access digest).bind (Steady.parentReference digest)
  intro reference
  apply (imageOf digest).bind (Steady.imageOf digest)
  intro image
  exact pure _

theorem streamExists :
    Answers (σ := σ) access.streamExists.run fun sources => Sources.existence sources.stream := by
  apply followed Sources.existence (fetchStream access)
  intro found
  rcases found with (_ | _ | _) | _ <;> exact pure _

theorem tags : Answers (σ := σ) access.tags.run
    fun sources => (sources.streamFor .tags).map ImageStream.currentTags := by
  apply (streamFor access .tags).bind (Steady.streamFor .tags)
  intro stream
  exact followed _ (note (StreamAccess.tagNotices stream)) fun _ => pure _

theorem hasBlob (digest : ContentDigest) :
    Answers (σ := σ) (access.hasBlob digest)
      fun sources => Sources.blob digest sources.layers := by
  apply followed (Sources.blob digest) (fetchLayers access)
  intro found
  cases found with
  | ok layers => exact pure _
  | error cause =>
    apply followed (fun _ => (false, none)) (note _)
    intro _
    exact pure _

theorem tagIsInsecure (tag : Option String) (digest : ContentDigest) :
    Answers (σ := σ) (access.tagIsInsecure tag digest).run
      fun sources => (sources.streamFor .tagIsInsecure).map (·.allowsInsecure tag digest) := by
  apply (streamFor access .tagIsInsecure).bind (Steady.streamFor .tagIsInsecure)
  intro stream
  exact pure _

theorem siteOf (stream : ImageStream) : Answers (σ := σ) (access.siteOf stream).run
    fun _ => .ok (LocalRegistry.ofStream stream access.aliases) :=
  followed _ (note (LocalRegistry.notices stream)) fun _ => pure _

theorem localRegistry : Answers (σ := σ) access.localRegistry.run
    fun sources =>
      (sources.streamFor .localRegistry).map (LocalRegistry.ofStream · access.aliases) := by
  apply (streamFor access .localRegistry).bind (Steady.streamFor .localRegistry)
  intro stream
  exact siteOf access stream

theorem candidates (primary : Bool) : Answers (σ := σ) (access.candidates primary).run
    fun sources => (sources.streamFor .candidates).map fun stream =>
      Pullthrough.candidates stream (LocalRegistry.ofStream stream access.aliases) primary
        access.defaults := by
  apply (streamFor access .candidates).bind (Steady.streamFor .candidates)
  intro stream
  exact (siteOf access stream).bind (Steady.const _) fun site => pure _

end Answers

/-- A question that is answered from two sources, the second consulted after the first. -/
def AnswersTwice {α : Type} (program : StateM (Scope σ) α) (view : Sources → Sources → α) : Prop :=
  ∀ scope, ∃ first middle second, Consults scope first middle ∧
    Consults middle second (scope.exec program).2 ∧ (scope.exec program).1 = view first second

/-- What has been answered may be taken to consult its own cache once more. -/
theorem Answers.twice {α : Type} {program : StateM (Scope σ) α} {view : Sources → α}
    (answers : Answers program view) : AnswersTwice program fun first _ => view first := by
  intro scope
  obtain ⟨sources, consults, answer⟩ := answers scope
  exact ⟨sources, (scope.exec program).2, .ofCache (scope.exec program).2.cache, consults,
    .refl _, answer⟩

theorem StreamAccess.exec_resolve (digest : ContentDigest) (scope : Scope σ) :
    scope.exec (access.resolve digest).run =
      match scope.exec (access.recordedImage digest).run with
      | (.ok image, after) => (.ok image, after)
      | (.error _, after) => after.exec (access.childImage digest).run := by
  unfold resolve
  refine (Scope.exec_bind ..).trans ?_
  cases scope.exec (access.recordedImage digest).run with
  | mk result after => cases result <;> rfl

theorem AnswersTwice.resolve (digest : ContentDigest) :
    AnswersTwice (σ := σ) (access.resolve digest).run
      fun first second => first.shownImage second access.defaults digest := by
  intro scope
  obtain ⟨first, early, recorded⟩ := Answers.recordedImage access digest scope
  rw [access.exec_resolve]
  unfold Sources.shownImage
  cases outcome : scope.exec (access.recordedImage digest).run with
  | mk result middle =>
    rw [outcome] at early recorded
    change result = first.recordedImage digest at recorded
    cases result with
    | ok image =>
      refine ⟨first, middle, .ofCache middle.cache, early, .refl middle, ?_⟩
      dsimp only
      rw [← recorded]
    | error cause =>
      obtain ⟨second, late, shown⟩ := Answers.childImage access digest middle
      refine ⟨first, middle, second, early, late, ?_⟩
      dsimp only
      rw [← recorded]
      exact shown

end ContainerStreams
