import ContainerStreams.ControlPlane.Scripted
import ContainerStreams.Proofs.Access.Reading

/-!
What is read while the control plane has a fixed answer to every fetch. Everything that a question
may be answered from is then available, cached or still to be fetched, and reading changes none of
it. The answer is a plain function of what is available, whether the answers are good or bad.
-/

set_option autoImplicit false

namespace ContainerStreams

abbrev FixedAnswers := (request : Request) → Except ApiError request.Answer

/-- Whether the request fetches a stream or an image, and not the layers of a stream. -/
def Request.fetchesRecord : Request → Bool
  | .imageStream _ _ => true
  | .image _ => true
  | _ => false

theorem Request.isFetch_of_fetchesRecord (request : Request)
    (fetches : request.fetchesRecord = true) : request.isFetch = true := by
  cases request <;> first | rfl | cases fetches

section Fixed

variable {σ : Type} [ControlPlane σ]

namespace ControlPlane

def afterRequests (plane : σ) (requests : List Request) : σ :=
  requests.foldl (fun plane request => (respond .registry request plane).2) plane

/-- Whatever has been fetched before, every fetch gets its fixed answer, and nothing is cancelled
meanwhile. -/
def Fixed (plane : σ) (answers : FixedAnswers) : Prop :=
  ∀ earlier : List Request, (∀ request ∈ earlier, request.isFetch = true) →
    ∀ request, request.isFetch = true →
      (respond .registry request (afterRequests plane earlier)).1 =
        .completed (answers request) false

namespace Fixed

variable {plane : σ} {answers : FixedAnswers}

theorem answer (fixed : Fixed plane answers) (request : Request)
    (isFetch : request.isFetch = true) :
    (respond .registry request plane).1 = .completed (answers request) false :=
  fixed [] (List.forall_mem_nil _) request isFetch

theorem next (fixed : Fixed plane answers) (request : Request)
    (isFetch : request.isFetch = true) :
    Fixed (respond .registry request plane).2 answers := by
  intro earlier allFetches
  exact fixed (request :: earlier) (List.forall_mem_cons.mpr ⟨isFetch, allFetches⟩)

end Fixed

end ControlPlane

namespace Scripted

def answers (plane : Scripted) : FixedAnswers := fun request => (plane.registry.answer request).1

variable {plane : Scripted}
  (uninterrupted : ∀ operation, plane.registry.interruptions.get? operation = none)
include uninterrupted

/-- Without interruptions, a fetch is answered and leaves the script as it was. -/
theorem respond_of_isFetch (request : Request) (isFetch : request.isFetch = true) :
    ControlPlane.respond .registry request plane =
      (.completed (plane.answers request) false, plane) := by
  have answered : plane.registry.respond request =
      (.completed (plane.registry.answer request).1 false, plane.registry) := by
    rw [Script.respond, uninterrupted]
    cases request <;> first | rfl | cases isFetch
  change ((plane.registry.respond request).1,
    { plane with registry := (plane.registry.respond request).2 }) = _
  rw [answered]
  rfl

theorem fixed : ControlPlane.Fixed plane plane.answers := by
  intro earlier allFetches request isFetch
  induction earlier with
  | nil => exact congrArg Prod.fst (respond_of_isFetch uninterrupted request isFetch)
  | cons first rest ih =>
    have stays := respond_of_isFetch uninterrupted first (allFetches first (.head _))
    rw [ControlPlane.afterRequests, List.foldl_cons, stays]
    exact ih fun later member => allFetches later (.tail _ member)

end Scripted

/-- The request is not cancelled, and every fetch gets its fixed answer. -/
structure Scope.Served (scope : Scope σ) (answers : FixedAnswers) : Prop where
  live : scope.cancelled = false
  fixed : ControlPlane.Fixed scope.plane answers

/-- A fetch that is needed leaves a served scope, in which its fixed answer is kept. -/
theorem Scope.obtain_of_served {ε : Type} {scope : Scope σ} {answers : FixedAnswers}
    (served : scope.Served answers) (change : ApiError → ε) (request : Request)
    (isFetch : request.isFetch = true) (lacking : scope.cache.holds request = false)
    {asked : Request → Bool} (allowed : asked request = true) :
    ∃ after, scope.obtain change request = ((answers request).mapError change, after) ∧
      after.Served answers ∧
      after.cache =
        scope.cache.after ⟨.registry, request, .completed (answers request) false⟩ ∧
      scope.Evolves asked after := by
  have reply : scope.reply .registry request = .completed (answers request) false :=
    served.fixed.answer request isFetch
  have step := Step.call scope .registry request allowed served.live lacking
  unfold exchange at step
  rw [obtain, if_neg (by simp [served.live]), exchange, reply]
  rw [reply] at step
  refine ⟨_, rfl, ⟨?_, served.fixed.next request isFetch⟩, rfl, .single step⟩
  change cancelledBy (scope.reply .registry request) = false
  rw [reply]
  rfl

end Fixed

namespace StreamAccess

variable (access : StreamAccess)

/-- What can be read: whatever is cached, and the answers to the fetches for the rest. -/
def available (answers : FixedAnswers) (cache : Cache) : Sources where
  stream := cache.stream.elim
    ((answers (.imageStream access.project access.name)).mapError LookupFailure.ofApiError) .ok
  layers := cache.layers.elim
    ((answers (.streamLayers access.project access.name)).mapError LookupFailure.ofApiError) .ok
  image digest := (cache.images.get? digest.text).elim (answers (.image digest.text)) .ok

variable (answers : FixedAnswers) (cache : Cache)

/-- Keeping a stream that had to be fetched changes nothing of what can be read. -/
theorem available_after_stream (lacking : cache.stream = none) :
    access.available answers (cache.after ⟨.registry, .imageStream access.project access.name,
      .completed (answers (.imageStream access.project access.name)) false⟩) =
      access.available answers cache := by
  rw [Cache.after_imageStream]
  unfold available
  rw [lacking]
  cases answers (.imageStream access.project access.name) with
  | error cause => simp [Scope.received, Except.toOption, lacking]
  | ok stream => rfl

theorem available_after_layers (lacking : cache.layers = none) :
    access.available answers (cache.after ⟨.registry, .streamLayers access.project access.name,
      .completed (answers (.streamLayers access.project access.name)) false⟩) =
      access.available answers cache := by
  rw [Cache.after_streamLayers]
  unfold available
  rw [lacking]
  cases answers (.streamLayers access.project access.name) with
  | error cause => simp [Scope.received, Except.toOption, lacking]
  | ok layers => rfl

theorem available_after_image (digest : ContentDigest)
    (lacking : cache.images.get? digest.text = none) :
    access.available answers (cache.after ⟨.registry, .image digest.text,
      .completed (answers (.image digest.text)) false⟩) = access.available answers cache := by
  rw [Cache.after_image]
  cases answered : answers (.image digest.text) with
  | error cause => rfl
  | ok image =>
    -- Digests with one text share one entry of the cache.
    have sameImage (other : ContentDigest) :
        ((cache.images.insert digest.text image).get? other.text).elim
          (answers (.image other.text)) .ok =
        (cache.images.get? other.text).elim (answers (.image other.text)) .ok := by
      rw [SortedMap.get?_insert]
      by_cases same : other.text = digest.text
      · rw [if_pos same, same, lacking, Option.elim_none, answered]
        rfl
      · rw [if_neg same]
    exact congrArg (Sources.mk _ _) (funext sameImage)

end StreamAccess

variable {σ ε α β : Type} [ControlPlane σ]

/-- From one served scope to another, with the same to read in both. -/
structure StreamAccess.Reaches (access : StreamAccess) (answers : FixedAnswers)
    (asked : Request → Bool) (before after : Scope σ) : Prop where
  served : after.Served answers
  available : access.available answers after.cache = access.available answers before.cache
  evolves : before.Evolves asked after

namespace StreamAccess.Reaches

variable {access : StreamAccess} {answers : FixedAnswers} {asked wide : Request → Bool}
  {before middle after : Scope σ}

theorem refl (served : before.Served answers) : access.Reaches answers asked before before :=
  ⟨served, rfl, .refl⟩

theorem trans (early : access.Reaches answers asked before middle)
    (late : access.Reaches answers asked middle after) :
    access.Reaches answers asked before after :=
  ⟨late.served, late.available.trans early.available, early.evolves.trans late.evolves⟩

theorem mono (reaches : access.Reaches answers asked before after)
    (widens : ∀ request, asked request = true → wide request = true) :
    access.Reaches answers wide before after :=
  ⟨reaches.served, reaches.available, reaches.evolves.mono widens⟩

end StreamAccess.Reaches

/-- In a served scope, the program answers what the view makes of what can be read, and it asks
for nothing but what it may. -/
def StreamAccess.Settles (access : StreamAccess) (asked : Request → Bool)
    (program : StateM (Scope σ) α) (view : Sources → α) : Prop :=
  ∀ (answers : FixedAnswers) (scope : Scope σ), scope.Served answers →
    ∃ after, scope.exec program = (view (access.available answers scope.cache), after) ∧
      access.Reaches answers asked scope after

namespace StreamAccess.Settles

variable (access : StreamAccess) {asked wide : Request → Bool}

/-- A fetch answers what is held, or else it gets the fixed answer. -/
theorem of_fetches (request : Request) (change : ApiError → ε)
    {program : StateM (Scope σ) (Except ε request.Answer)}
    {held : Cache → Option request.Answer} {keep : Cache → request.Answer → Cache}
    {view : Sources → Except ε request.Answer}
    (fetching : Fetches program held keep)
    (obtains : ∀ scope : Scope σ, held scope.cache = none →
      scope.exec program = scope.obtain change request)
    (isFetch : request.isFetch = true) (allowed : asked request = true)
    (needed : ∀ cache, held cache = none → cache.holds request = false)
    (seen : ∀ answers cache, view (access.available answers cache) =
      (held cache).elim ((answers request).mapError change) .ok)
    (keeps : ∀ (answers : FixedAnswers) cache, held cache = none →
      access.available answers
        (cache.after ⟨.registry, request, .completed (answers request) false⟩) =
        access.available answers cache) :
    access.Settles asked program view := by
  intro answers scope served
  rw [seen]
  cases known : held scope.cache with
  | some value =>
    rw [fetching.answers scope value known]
    exact ⟨scope, rfl, .refl served⟩
  | none =>
    obtain ⟨after, outcome, stillServed, kept, evolves⟩ :=
      Scope.obtain_of_served served change request isFetch (needed _ known) allowed
    rw [obtains scope known, outcome]
    refine ⟨after, rfl, stillServed, ?_, evolves⟩
    rw [kept, keeps answers scope.cache known]

theorem fetchStream :
    access.Settles (σ := σ) Request.fetchesRecord access.fetchStream.run Sources.stream := by
  refine of_fetches access (.imageStream _ _) _ access.fetches_stream ?_ rfl rfl ?_ (fun _ _ => rfl)
    access.available_after_stream
  · intro scope unknown
    rw [exec_fetchStream, unknown]
  · intro cache unknown
    rw [Cache.holds, unknown]
    rfl

theorem fetchLayers :
    access.Settles (σ := σ) Request.isFetch access.fetchLayers.run Sources.layers := by
  refine of_fetches access (.streamLayers _ _) _ access.fetches_layers ?_ rfl rfl ?_
    (fun _ _ => rfl) access.available_after_layers
  · intro scope unknown
    rw [exec_fetchLayers, unknown]
  · intro cache unknown
    rw [Cache.holds, unknown]
    rfl

theorem fetchImage (digest : ContentDigest) :
    access.Settles (σ := σ) Request.fetchesRecord (StreamAccess.fetchImage digest).run
      (·.image digest) := by
  refine of_fetches access (.image _) id (fetches_image digest) ?_ rfl rfl ?_ ?_
    (access.available_after_image · · digest)
  · intro scope unknown
    rw [exec_fetchImage, unknown]
  · intro cache unknown
    rw [Cache.holds, SortedMap.contains, unknown]
    rfl
  · intro answers cache
    dsimp only [available]
    cases answers (.image digest.text) <;> rfl

theorem pure (value : α) : access.Settles (σ := σ) asked (pure value) fun _ => value := by
  intro answers scope served
  exact ⟨scope, rfl, .refl served⟩

variable {access}

theorem mono {program : StateM (Scope σ) α} {view : Sources → α}
    (settles : access.Settles asked program view)
    (widens : ∀ request, asked request = true → wide request = true) :
    access.Settles wide program view := by
  intro answers scope served
  obtain ⟨after, outcome, reaches⟩ := settles answers scope served
  exact ⟨after, outcome, reaches.mono widens⟩

theorem adapt {action : Action σ ε α} {view : Sources → Except ε α} {ε' : Type}
    (settles : access.Settles asked action.run view) (change : ε → ε') :
    access.Settles asked (action.adapt change).run
      fun sources => (view sources).mapError change := by
  intro answers scope served
  obtain ⟨after, outcome, reaches⟩ := settles answers scope served
  rw [Scope.exec_run_adapt, outcome]
  exact ⟨after, rfl, reaches⟩

theorem bind {action : Action σ ε α} {next : α → Action σ ε β}
    {view : Sources → Except ε α} {further : α → Sources → Except ε β}
    (first : access.Settles asked action.run view)
    (rest : ∀ value, access.Settles asked (next value).run (further value)) :
    access.Settles asked (action >>= next).run
      fun sources => view sources >>= (further · sources) := by
  intro answers scope served
  obtain ⟨middle, outcome, early⟩ := first answers scope served
  rw [Scope.exec_run_bind, outcome]
  dsimp only
  cases view (access.available answers scope.cache) with
  | error error => exact ⟨middle, rfl, early⟩
  | ok value =>
    obtain ⟨after, answered, late⟩ := rest value answers middle early.served
    -- The rest reads from the same sources, although the first action may have cached some.
    rw [early.available] at answered
    exact ⟨after, answered, early.trans late⟩

/-- A program that asks for records alone may ask for any fetch. -/
theorem widened {program : StateM (Scope σ) α} {view : Sources → α}
    (settles : access.Settles Request.fetchesRecord program view) :
    access.Settles Request.isFetch program view :=
  settles.mono Request.isFetch_of_fetchesRecord

variable (access)

theorem eventOf (imageId : String) :
    access.Settles (σ := σ) Request.fetchesRecord (access.eventOf imageId).run
      (·.eventOf imageId) := by
  have fetched := (fetchStream (σ := σ) access).adapt (Failure.streamUnavailable .resolveImageId)
  apply fetched.bind
  intro stream
  cases stream.resolveImageId imageId with
  | error cause => exact pure access _
  | ok event => exact pure access _

theorem imageOf (digest : ContentDigest) :
    access.Settles (σ := σ) Request.fetchesRecord (StreamAccess.imageOf digest).run
      (·.imageOf digest) :=
  (fetchImage access digest).adapt (Failure.imageUnavailable digest)

theorem storedImage (digest : ContentDigest) :
    access.Settles (σ := σ) Request.fetchesRecord (access.storedImage digest).run
      (·.storedImage digest) := by
  apply (eventOf access digest.text).bind
  intro event
  apply (imageOf access digest).bind
  intro image
  exact pure access _

theorem recordedImage (digest : ContentDigest) :
    access.Settles (σ := σ) Request.fetchesRecord (access.recordedImage digest).run
      (·.recordedImage digest) := by
  apply (storedImage access digest).bind
  intro found
  exact pure access _

theorem parentReference (digest : ContentDigest) :
    access.Settles (σ := σ) Request.isFetch (access.parentReference digest).run
      (·.parentReference digest) := by
  have fetched := (fetchLayers (σ := σ) access).adapt Failure.layersUnavailable
  apply fetched.bind
  intro layers
  unfold Sources.referenceIn
  cases layers.parentOf? digest with
  | none => exact pure access _
  | some parent =>
    have resolved :=
      (eventOf (σ := σ) access parent).widened.adapt (Failure.parentUnresolved parent)
    apply resolved.bind
    intro event
    unfold Sources.referenceBy
    cases ImageReference.parse event.pullReference with
    | error cause => exact pure access _
    | ok reference => exact pure access _

theorem childImage (digest : ContentDigest) :
    access.Settles (σ := σ) Request.isFetch (access.childImage digest).run
      (·.childImage access.defaults digest) := by
  apply (parentReference access digest).bind
  intro reference
  apply (imageOf access digest).widened.bind
  intro image
  exact pure access _

/-- Both ways of showing an image read from the same sources. -/
theorem resolve (digest : ContentDigest) :
    access.Settles (σ := σ) Request.isFetch (access.resolve digest).run
      fun sources => sources.shownImage sources access.defaults digest := by
  intro answers scope served
  obtain ⟨middle, recorded, early⟩ :=
    (recordedImage access digest).widened answers scope served
  rw [access.exec_resolve, recorded]
  unfold Sources.shownImage
  dsimp only
  cases (access.available answers scope.cache).recordedImage digest with
  | ok image => exact ⟨middle, rfl, early⟩
  | error cause =>
    obtain ⟨after, shown, late⟩ := childImage access digest answers middle early.served
    rw [early.available] at shown
    exact ⟨after, shown, early.trans late⟩

end StreamAccess.Settles

end ContainerStreams
