import ContainerStreams.Proofs.Access.Fetching
import Mathlib.Order.Defs.PartialOrder

set_option autoImplicit false

namespace ContainerStreams

/-- What the stream, its layers and its images are found to be, or why they are not found. -/
structure Sources where
  stream : Except LookupFailure ImageStream
  layers : Except LookupFailure StreamLayers
  image : ContentDigest → Except ApiError Image

namespace Sources

/-- What a cache gives. Whatever it lacks fails as it does for a cancelled request. -/
def ofCache (cache : Cache) : Sources where
  stream := cache.stream.elim (.error (.ofApiError .cancelled)) .ok
  layers := cache.layers.elim (.error (.ofApiError .cancelled)) .ok
  image digest := (cache.images.get? digest.text).elim (.error .cancelled) .ok

theorem image_ofCache (cache : Cache) (digest : ContentDigest) : (ofCache cache).image digest =
    (cache.images.get? digest.text).elim (.error .cancelled) .ok := rfl

theorem stream_ofCache_iff (cache : Cache) (stream : ImageStream) :
    (ofCache cache).stream = .ok stream ↔ cache.stream = some stream := by
  unfold ofCache
  cases cache.stream <;> simp

theorem layers_ofCache_iff (cache : Cache) (layers : StreamLayers) :
    (ofCache cache).layers = .ok layers ↔ cache.layers = some layers := by
  unfold ofCache
  cases cache.layers <;> simp

theorem image_ofCache_iff (cache : Cache) (digest : ContentDigest) (image : Image) :
    (ofCache cache).image digest = .ok image ↔ cache.images.get? digest.text = some image := by
  rw [image_ofCache]
  cases cache.images.get? digest.text <;> simp

/-- Whatever the first sources give, the second give too. -/
structure Within (first second : Sources) : Prop where
  stream : ∀ stream, first.stream = .ok stream → second.stream = .ok stream
  layers : ∀ layers, first.layers = .ok layers → second.layers = .ok layers
  image : ∀ digest image, first.image digest = .ok image → second.image digest = .ok image

instance : Preorder Sources where
  le := Within
  le_refl _ := ⟨fun _ => id, fun _ => id, fun _ _ => id⟩
  le_trans _ _ _ lower upper := ⟨fun _ => upper.stream _ ∘ lower.stream _,
    fun _ => upper.layers _ ∘ lower.layers _, fun _ _ => upper.image _ _ ∘ lower.image _ _⟩

end Sources

variable {σ ε α β : Type} [ControlPlane σ]

/-- From one scope to another by fetching what the sources give and the cache lacks. -/
structure Consults (before : Scope σ) (sources : Sources) (after : Scope σ) : Prop where
  known : Sources.ofCache before.cache ≤ sources
  kept : sources ≤ Sources.ofCache after.cache
  evolves : before.Evolves Request.isFetch after

namespace Consults

variable {before middle after : Scope σ} {first second : Sources}

theorem refl (scope : Scope σ) : Consults scope (.ofCache scope.cache) scope :=
  ⟨le_refl _, le_refl _, .refl⟩

theorem le (early : Consults before first middle) (late : Consults middle second after) :
    first ≤ second :=
  le_trans early.kept late.known

theorem trans_left (early : Consults before first middle) (late : Consults middle second after) :
    Consults before first after where
  known := early.known
  kept := le_trans (early.le late) late.kept
  evolves := early.evolves.trans late.evolves

theorem trans_right (early : Consults before first middle) (late : Consults middle second after) :
    Consults before second after where
  known := le_trans early.known (early.le late)
  kept := late.kept
  evolves := early.evolves.trans late.evolves

end Consults

/-- The program answers what the view makes of some sources that it consults. -/
def Answers (program : StateM (Scope σ) α) (view : Sources → α) : Prop :=
  ∀ scope, ∃ sources, Consults scope sources (scope.exec program).2 ∧
    (scope.exec program).1 = view sources

namespace Answers

/-- A fetch answers from the sources in which its own result takes the place of what is held. -/
theorem of_fetches {program : StateM (Scope σ) (Except ε α)} {held : Cache → Option α}
    {keep : Cache → α → Cache} {view : Sources → Except ε α}
    (fetching : Fetches program held keep) (put : Cache → Except ε α → Sources)
    (seen : ∀ cache value, held cache = some value → view (.ofCache cache) = .ok value)
    (view_put : ∀ cache result, view (put cache result) = result)
    (le_put : ∀ cache result, held cache = none → .ofCache cache ≤ put cache result)
    (put_error : ∀ cache error, put cache (.error error) ≤ .ofCache cache)
    (put_ok : ∀ cache value, put cache (.ok value) ≤ .ofCache (keep cache value)) :
    Answers program view := by
  intro scope
  cases known : held scope.cache with
  | some value =>
    rw [fetching.answers scope value known]
    exact ⟨.ofCache scope.cache, .refl scope, (seen _ _ known).symm⟩
  | none =>
    obtain ⟨result, after, outcome, kept, evolves⟩ := fetching.fetches scope known
    rw [outcome]
    refine ⟨put scope.cache result, ⟨le_put _ result known, ?_, evolves⟩, (view_put _ _).symm⟩
    rw [kept]
    cases result with
    | error error => exact put_error scope.cache error
    | ok value => exact put_ok scope.cache value

theorem fetchStream (access : StreamAccess) :
    Answers (σ := σ) access.fetchStream.run Sources.stream := by
  apply of_fetches access.fetches_stream fun cache result =>
    { Sources.ofCache cache with stream := result }
  · intro cache stream known
    rw [Sources.ofCache, known]
    rfl
  · intro cache result
    rfl
  · intro cache result unknown
    refine ⟨fun stream given => ?_, fun _ => id, fun _ _ => id⟩
    rw [Sources.ofCache, unknown] at given
    cases given
  · intro cache error
    exact ⟨fun _ => nofun, fun _ => id, fun _ _ => id⟩
  · intro cache stream
    exact ⟨fun _ => id, fun _ => id, fun _ _ => id⟩

theorem fetchLayers (access : StreamAccess) :
    Answers (σ := σ) access.fetchLayers.run Sources.layers := by
  apply of_fetches access.fetches_layers fun cache result =>
    { Sources.ofCache cache with layers := result }
  · intro cache layers known
    rw [Sources.ofCache, known]
    rfl
  · intro cache result
    rfl
  · intro cache result unknown
    refine ⟨fun _ => id, fun layers given => ?_, fun _ _ => id⟩
    rw [Sources.ofCache, unknown] at given
    cases given
  · intro cache error
    exact ⟨fun _ => id, fun _ => nofun, fun _ _ => id⟩
  · intro cache layers
    exact ⟨fun _ => id, fun _ => id, fun _ _ => id⟩

theorem fetchImage (digest : ContentDigest) :
    Answers (σ := σ) (StreamAccess.fetchImage digest).run (·.image digest) := by
  -- Digests with one text share one entry of the cache.
  apply of_fetches (StreamAccess.fetches_image digest) fun cache result =>
    { Sources.ofCache cache with
      image := fun other =>
        if other.text = digest.text then result else (Sources.ofCache cache).image other }
  · intro cache image known
    rw [Sources.image_ofCache, known]
    rfl
  · intro cache result
    exact if_pos rfl
  · intro cache result unknown
    refine ⟨fun _ => id, fun _ => id, fun other image given => ?_⟩
    by_cases same : other.text = digest.text
    · rw [Sources.image_ofCache, same, unknown] at given
      cases given
    · exact (if_neg same).trans given
  · intro cache error
    refine ⟨fun _ => id, fun _ => id, fun other image given => ?_⟩
    by_cases same : other.text = digest.text
    · cases (if_pos same).symm.trans given
    · exact (if_neg same).symm.trans given
  · intro cache fetched
    refine ⟨fun _ => id, fun _ => id, fun other image given => ?_⟩
    by_cases same : other.text = digest.text
    · have isFetched : Except.ok fetched = .ok image := (if_pos same).symm.trans given
      simpa [Sources.image_ofCache, same] using isFetched
    · have cached := (if_neg same).symm.trans given
      simpa [Sources.image_ofCache, same] using cached

theorem pure (value : α) : Answers (σ := σ) (pure value) fun _ => value := by
  intro scope
  exact ⟨.ofCache scope.cache, .refl scope, rfl⟩

theorem note (notices : List Notice) :
    Answers (σ := σ) (modify (Scope.noting notices)) fun _ => () := by
  intro scope
  have evolves : scope.Evolves Request.isFetch (scope.noting notices) :=
    .single (.note scope notices)
  exact ⟨.ofCache scope.cache, ⟨le_refl _, le_refl _, evolves⟩, rfl⟩

theorem adapt {action : Action σ ε α} {view : Sources → Except ε α} {ε' : Type}
    (answers : Answers action.run view) (change : ε → ε') :
    Answers (action.adapt change).run fun sources => (view sources).mapError change := by
  intro scope
  obtain ⟨sources, consults, answer⟩ := answers scope
  rw [Scope.exec_run_adapt]
  exact ⟨sources, consults, congrArg (Except.mapError change) answer⟩

/-- What follows need not consult anything to be answered. -/
theorem followed {program : StateM (Scope σ) α} {view : Sources → α}
    {next : α → StateM (Scope σ) β} (answer : α → β) (first : Answers program view)
    (rest : ∀ value, Answers (next value) fun _ => answer value) :
    Answers (program >>= next) fun sources => answer (view sources) := by
  intro scope
  obtain ⟨sources, early, given⟩ := first scope
  obtain ⟨others, late, answered⟩ := rest (scope.exec program).1 (scope.exec program).2
  rw [Scope.exec_bind]
  exact ⟨sources, early.trans_left late, answered.trans (congrArg answer given)⟩

end Answers

/-- More sources do not change what the view sees. -/
def Steady (view : Sources → Except ε α) : Prop :=
  ∀ first second, first ≤ second → ∀ value, view first = .ok value → view second = .ok value

namespace Steady

theorem stream : Steady Sources.stream := fun _ _ within => within.stream

theorem layers : Steady Sources.layers := fun _ _ within => within.layers

theorem image (digest : ContentDigest) : Steady fun sources => sources.image digest :=
  fun _ _ within => within.image digest

theorem const (result : Except ε α) : Steady fun _ => result := fun _ _ _ _ => id

theorem mapError {view : Sources → Except ε α} {ε' : Type} (steady : Steady view)
    (change : ε → ε') : Steady fun sources => (view sources).mapError change := by
  intro first second within value given
  dsimp only at given ⊢
  cases seen : view first with
  | error error =>
    rw [seen] at given
    cases given
  | ok found =>
    rw [seen] at given
    rw [steady first second within found seen]
    exact given

theorem bind {view : Sources → Except ε α} {further : α → Sources → Except ε β}
    (steady : Steady view) (rest : ∀ value, Steady (further value)) :
    Steady fun sources => view sources >>= (further · sources) := by
  intro first second within value given
  dsimp only at given ⊢
  cases seen : view first with
  | error error =>
    rw [seen] at given
    cases given
  | ok found =>
    rw [seen] at given
    rw [steady first second within found seen]
    exact rest found first second within value given

end Steady

/-- What the first action answers is still seen in the sources of the second. -/
theorem Answers.bind {action : Action σ ε α} {next : α → Action σ ε β}
    {view : Sources → Except ε α} {further : α → Sources → Except ε β}
    (first : Answers action.run view) (steady : Steady view)
    (rest : ∀ value, Answers (next value).run (further value)) :
    Answers (action >>= next).run fun sources => view sources >>= (further · sources) := by
  intro scope
  obtain ⟨sources, early, given⟩ := first scope
  rw [Scope.exec_run_bind]
  cases outcome : scope.exec action.run with
  | mk result middle =>
    rw [outcome] at early given
    cases result with
    | error error =>
      refine ⟨sources, early, ?_⟩
      change _ = view sources >>= (further · sources)
      rw [← given]
      rfl
    | ok value =>
      obtain ⟨others, late, answered⟩ := rest value middle
      -- The first answer was seen in fewer sources than these, and a steady view sees it again.
      have again : view others = .ok value :=
        steady sources others (early.le late) value given.symm
      refine ⟨others, early.trans_right late, ?_⟩
      change _ = view others >>= (further · others)
      rw [again]
      exact answered

end ContainerStreams
