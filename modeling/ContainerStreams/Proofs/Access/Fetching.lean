import ContainerStreams.Access.Basic
import ContainerStreams.Proofs.ControlPlane.Steps

set_option autoImplicit false

namespace ContainerStreams

namespace Scope

variable {σ ε : Type} [ControlPlane σ]

def obtain (scope : Scope σ) (change : ApiError → ε) (request : Request) :
    Except ε request.Answer × Scope σ :=
  if scope.cancelled then (.error (change .cancelled), scope)
  else ((received (scope.reply .registry request)).mapError change,
    (scope.afterCall .registry request).caching (·.after (scope.exchange .registry request)))

theorem obtain_spec (scope : Scope σ) (change : ApiError → ε) (request : Request)
    (keep : request.Answer → Cache) (isFetch : request.isFetch = true)
    (lacking : scope.cache.holds request = false)
    (keeps : ∀ reply, scope.cache.after ⟨.registry, request, reply⟩ =
      (received reply).toOption.elim scope.cache keep) :
    ∃ result after, scope.obtain change request = (result, after) ∧
      after.cache = result.toOption.elim scope.cache keep ∧
      scope.Evolves Request.isFetch after := by
  unfold obtain
  split
  · exact ⟨_, _, rfl, rfl, .refl⟩
  · rename_i live
    refine ⟨_, _, rfl, (keeps (scope.reply .registry request)).trans ?_,
      .single (.call scope .registry request isFetch (Bool.eq_false_iff.mpr live) lacking)⟩
    cases received (scope.reply .registry request) <;> rfl

/-- The way of each fetch: a call, and then an entry in the cache if it succeeds. -/
theorem exec_obtain (scope : Scope σ) (change : ApiError → ε) (request : Request)
    (first : Action σ ε request.Answer) (keep : request.Answer → Cache → Cache)
    (calls : scope.exec first.run =
      ((scope.exec (call .registry request).run).1.mapError change,
        (scope.exec (call .registry request).run).2))
    (keeps : ∀ reply, scope.cache.after ⟨.registry, request, reply⟩ =
      (received reply).toOption.elim scope.cache fun value => keep value scope.cache) :
    scope.exec (do let value ← first; modify (caching (keep value)); return value).run =
      scope.obtain change request := by
  rw [exec_run_bind, calls, exec_call, obtain]
  by_cases cancelled : scope.cancelled = true
  · rw [if_pos cancelled, if_pos cancelled]
    rfl
  · rw [if_neg cancelled, if_neg cancelled]
    have kept := keeps (scope.reply .registry request)
    unfold caching
    change _ = (_, { scope.afterCall .registry request with
      cache := scope.cache.after ⟨.registry, request, scope.reply .registry request⟩ })
    rw [kept]
    cases received (scope.reply .registry request) <;> rfl

end Scope

/-- Whenever the program fails, it has left the cache as it was. -/
def UnchangedOnFailure {σ ε α : Type} (program : StateM (Scope σ) (Except ε α)) : Prop :=
  ∀ (scope : Scope σ) (error : ε), (scope.exec program).1 = .error error →
    (scope.exec program).2.cache = scope.cache

/-- The program answers what is held. If nothing is, it fetches, and a success is kept. -/
structure Fetches {σ ε α : Type} [ControlPlane σ] (program : StateM (Scope σ) (Except ε α))
    (held : Cache → Option α) (keep : Cache → α → Cache) : Prop where
  answers : ∀ (scope : Scope σ) value, held scope.cache = some value →
    scope.exec program = (.ok value, scope)
  fetches : ∀ scope : Scope σ, held scope.cache = none →
    ∃ result after, scope.exec program = (result, after) ∧
      after.cache = result.toOption.elim scope.cache (keep scope.cache) ∧
      scope.Evolves Request.isFetch after

theorem Fetches.unchangedOnFailure {σ ε α : Type} [ControlPlane σ]
    {program : StateM (Scope σ) (Except ε α)} {held : Cache → Option α} {keep : Cache → α → Cache}
    (fetching : Fetches program held keep) : UnchangedOnFailure program := by
  intro scope error failed
  cases known : held scope.cache with
  | some value =>
    rw [fetching.answers scope value known]
  | none =>
    obtain ⟨result, after, outcome, kept, -⟩ := fetching.fetches scope known
    rw [outcome] at failed ⊢
    obtain rfl : result = .error error := failed
    exact kept

namespace StreamAccess

variable {σ : Type} [ControlPlane σ]

variable (access : StreamAccess) (scope : Scope σ)

theorem exec_fetchStream : scope.exec access.fetchStream.run =
    match scope.cache.stream with
    | some stream => (.ok stream, scope)
    | none => scope.obtain LookupFailure.ofApiError
      (.imageStream access.project access.name) := by
  unfold fetchStream
  rw [Scope.exec_run_bind]
  change scope.exec _ = _
  cases scope.cache.stream with
  | some stream => rfl
  | none =>
    exact scope.exec_obtain LookupFailure.ofApiError (.imageStream access.project access.name) _
      (fun stream cache => { cache with stream := some stream }) rfl
      (scope.cache.after_imageStream .registry access.project access.name)

theorem exec_fetchLayers : scope.exec access.fetchLayers.run =
    match scope.cache.layers with
    | some layers => (.ok layers, scope)
    | none => scope.obtain LookupFailure.ofApiError
      (.streamLayers access.project access.name) := by
  unfold fetchLayers
  rw [Scope.exec_run_bind]
  change scope.exec _ = _
  cases scope.cache.layers with
  | some layers => rfl
  | none =>
    exact scope.exec_obtain LookupFailure.ofApiError (.streamLayers access.project access.name) _
      (fun layers cache => { cache with layers := some layers }) rfl
      (scope.cache.after_streamLayers .registry access.project access.name)

theorem exec_fetchImage (digest : ContentDigest) : scope.exec (fetchImage digest).run =
    match scope.cache.images.get? digest.text with
    | some image => (.ok image, scope)
    | none => scope.obtain id (.image digest.text) := by
  unfold fetchImage
  rw [Scope.exec_run_bind]
  change scope.exec _ = _
  cases scope.cache.images.get? digest.text with
  | some image => rfl
  | none =>
    refine scope.exec_obtain id (.image digest.text) _
      (fun image cache => { cache with images := cache.images.insert digest.text image }) ?_
      (scope.cache.after_image .registry digest.text)
    cases (scope.exec (Scope.call .registry (.image digest.text)).run) with
    | mk result after => cases result <;> rfl

theorem fetches_stream : Fetches (σ := σ) access.fetchStream.run Cache.stream
    fun cache stream => { cache with stream := some stream } where
  answers scope stream known := by
    rw [exec_fetchStream, known]
  fetches scope unknown := by
    have lacking : scope.cache.holds (.imageStream access.project access.name) = false := by
      rw [Cache.holds, unknown]
      rfl
    rw [exec_fetchStream, unknown]
    exact scope.obtain_spec LookupFailure.ofApiError _ _ rfl lacking
      (scope.cache.after_imageStream .registry access.project access.name)

theorem fetches_layers : Fetches (σ := σ) access.fetchLayers.run Cache.layers
    fun cache layers => { cache with layers := some layers } where
  answers scope layers known := by
    rw [exec_fetchLayers, known]
  fetches scope unknown := by
    have lacking : scope.cache.holds (.streamLayers access.project access.name) = false := by
      rw [Cache.holds, unknown]
      rfl
    rw [exec_fetchLayers, unknown]
    exact scope.obtain_spec LookupFailure.ofApiError _ _ rfl lacking
      (scope.cache.after_streamLayers .registry access.project access.name)

theorem fetches_image (digest : ContentDigest) :
    Fetches (σ := σ) (fetchImage digest).run (·.images.get? digest.text)
      fun cache image => { cache with images := cache.images.insert digest.text image } where
  answers scope image known := by
    rw [exec_fetchImage, known]
  fetches scope unknown := by
    have lacking : scope.cache.holds (.image digest.text) = false := by
      rw [Cache.holds, SortedMap.contains, unknown]
      rfl
    rw [exec_fetchImage, unknown]
    exact scope.obtain_spec id _ _ rfl lacking (scope.cache.after_image .registry digest.text)

end StreamAccess

end ContainerStreams
