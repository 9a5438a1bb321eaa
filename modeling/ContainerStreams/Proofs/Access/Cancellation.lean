import ContainerStreams.Access.Project
import ContainerStreams.Proofs.Access.Provenance

/-!
Operations of a request that is cancelled at any moment: before they start, while a call is pending,
or between two calls, which is as if the earlier one were answered just when the request is
cancelled. Main statement: the call that meets the cancellation is the last one, and the caches then
record its answer and nothing else, unless the call was a creation lost to another writer. That one
has no answer to record, and yet the stream that was sent takes the place of the one at hand.
-/

set_option autoImplicit false

namespace ContainerStreams

theorem Exchange.returnedStream?_eq_of_won {exchange : Exchange}
    (won : exchange.lostRace = false) :
    exchange.provisioned?.or exchange.fetchedStream? = exchange.returnedStream? := by
  cases provisioned : exchange.provisioned? with
  | some stream =>
    rw [returnedStream?_of_provisioned provisioned won]
    rfl
  | none =>
    obtain ⟨client, request, reply⟩ := exchange
    cases request with
    | createStream sent =>
      -- A creation that provisions nothing has failed.
      change createdStream? sent (Scope.received reply) = none at provisioned
      change none = (Scope.received reply).toOption
      cases answer : Scope.received reply with
      | ok created =>
        rw [answer] at provisioned
        cases provisioned
      | error cause => rfl
    | _ => rfl

namespace Cache

/-- The cache in which the answer of a call is recorded. A call that fails records nothing. -/
def recording (cache : Cache) (exchange : Exchange) : Cache where
  stream := exchange.returnedStream?.or cache.stream
  layers := exchange.fetchedLayers?.or cache.layers
  images :=
    match exchange.fetchedEntry? with
    | some (name, image) => cache.images.insert name image
    | none => cache.images

theorem after_eq_recording (cache : Cache) {exchange : Exchange}
    (won : exchange.lostRace = false) : cache.after exchange = cache.recording exchange := by
  have stream : (cache.after exchange).stream = (cache.recording exchange).stream := by
    change exchange.provisioned?.or (exchange.fetchedStream?.or cache.stream) =
      exchange.returnedStream?.or cache.stream
    rw [← Option.or_assoc, Exchange.returnedStream?_eq_of_won won]
  exact congrArg (fun stream => { cache.after exchange with stream }) stream

/-- What a lost creation leaves is not what it is answered, since it is answered nothing. -/
theorem after_of_lostRace (cache : Cache) {exchange : Exchange}
    (lost : exchange.lostRace = true) :
    cache.after exchange = { cache with stream := exchange.provisioned? } ∧
      cache.recording exchange = cache := by
  obtain ⟨sent, creation, kept⟩ := Exchange.provisioned?_of_lostRace lost
  obtain ⟨client, request, reply⟩ := exchange
  obtain rfl : request = .createStream sent := creation
  have unanswered : (Scope.received reply).toOption = none := by
    rw [Exchange.lostRace, kept] at lost
    exact Option.isNone_iff_eq_none.mp lost
  constructor
  · rw [after_createStream, kept]
    rfl
  · change Cache.mk ((Scope.received reply).toOption.or cache.stream) cache.layers cache.images = _
    rw [unanswered]
    rfl

end Cache

variable {σ : Type} [ControlPlane σ]

namespace StreamAccess

variable (access : StreamAccess)

theorem secrets_evolves (scope : Scope σ) :
    scope.Evolves (fun request => !request.isWrite) (scope.exec access.secrets.run).2 := by
  have called := @Scope.call_evolves σ _ (fun request => !request.isWrite) scope .registry
    (.secrets access.project access.name) rfl rfl rfl
  unfold secrets
  rw [Scope.exec_run_bind, Scope.exec_run_adapt]
  cases met : scope.exec (Scope.call .registry (.secrets access.project access.name)).run with
  | mk result after =>
    rw [met] at called
    cases result with
    | ok list => exact called
    | error cause => exact called

/-- The store is not part of the scope, so that only the call and a note change anything there. -/
theorem limitRangeList_evolves {τ : Type} [ObjectStore τ LimitRangeList] (store : τ)
    (scope : Scope σ) :
    scope.Evolves (fun request => !request.isWrite)
      (scope.exec (access.limitRangeList store)).2 := by
  have called := @Scope.call_evolves σ _ (fun request => !request.isWrite) scope .registry
    (.limitRanges access.project) rfl rfl rfl
  unfold limitRangeList
  cases ObjectStore.get access.project store with
  | mk kept store =>
    cases kept with
    | some list => exact .refl
    | none =>
      dsimp only
      rw [Scope.exec_bind]
      cases met : scope.exec (Scope.call .registry (.limitRanges access.project)).run with
      | mk result after =>
        rw [met] at called
        cases result with
        | error cause => exact called
        | ok list =>
          dsimp only
          cases ObjectStore.add access.project list store with
          | mk added store =>
            cases added with
            | ok _ => exact called
            | error cause => exact called.tail (.note after [.limitRangesNotStored cause])

end StreamAccess

/-- Everything that an access can be asked to do. The limit ranges are looked up in a store of the
caller's, which may be one that keeps nothing. -/
inductive Errand (τ : Type) where
  | common (operation : Operation)
  | secrets
  | limitRangeList (store : τ)

namespace Errand

variable {τ : Type} [ObjectStore τ LimitRangeList]

def after (access : StreamAccess) (scope : Scope σ) : Errand τ → Scope σ
  | .common operation => operation.after access scope
  | .secrets => (scope.exec access.secrets.run).2
  | .limitRangeList store => (scope.exec (access.limitRangeList store)).2

theorem evolves (access : StreamAccess) (scope : Scope σ) (errand : Errand τ) :
    scope.Evolves (fun _ => true) (errand.after access scope) := by
  cases errand with
  | common operation => exact operation.evolves access scope
  | secrets => exact (access.secrets_evolves scope).mono fun _ _ => rfl
  | limitRangeList store => exact (access.limitRangeList_evolves store scope).mono fun _ _ => rfl

theorem createsFresh (access : StreamAccess) (scope : Scope σ) (errand : Errand τ) :
    ∃ calls, (errand.after access scope).journal = scope.journal ++ calls ∧
      access.CreatesFresh calls := by
  cases errand with
  | common operation => exact access.operation_createsFresh scope operation
  | secrets => exact (access.secrets_evolves scope).createsFresh
  | limitRangeList store => exact (access.limitRangeList_evolves store scope).createsFresh

/-- A cancelled request starts no call and leaves the caches alone. Of a live one, whatever call
meets the cancellation is the last: it was started in a live scope, with the calls before it behind
it. If it was abandoned, the caches are left as they were in that scope. If it was a creation that
another writer has won, the stream cached there is replaced by the empty one that was sent, so its
answer is recorded and nothing else exactly if no creation was lost or the same empty stream was
cached before. A call that is refused or abandoned fails as cancelled. -/
theorem cancelled_records_answer_iff (access : StreamAccess) (scope : Scope σ)
    (errand : Errand τ) :
    let after := errand.after access scope
    (∃ calls, after.journal = scope.journal ++ calls ∧
      (scope.cancelled = true → calls = [] ∧ after.cache = scope.cache) ∧
      ∀ early met late, calls = early ++ met :: late → Scope.cancelledBy met.reply = true →
        late = [] ∧ ∃ started : Scope σ, scope.Evolves (fun _ => true) started ∧
          started.cancelled = false ∧ started.journal = scope.journal ++ early ∧
          met = started.exchange met.client met.request ∧
          (met.reply = .abandoned → after.cache = started.cache) ∧
          (met.lostRace = true →
            after.cache = { started.cache with stream := some access.freshStream }) ∧
          (after.cache = started.cache.recording met ↔
            (met.lostRace = true → started.cache.stream = some access.freshStream))) ∧
      ∀ (now : Scope σ) (client : Client) (request : Request),
        (now.cancelled = true ∨ now.reply client request = .abandoned) →
          ∃ cause, (now.exec (Scope.call client request).run).1 = .error cause ∧
            cause.reason = .cancelled := by
  intro after
  have evolves : scope.Evolves (fun _ => true) after := errand.evolves access scope
  obtain ⟨calls, written, fresh⟩ := errand.createsFresh access scope
  refine ⟨⟨calls, written, ?_, ?_⟩, ?_⟩
  · intro cancelled
    obtain ⟨-, unwritten, unchanged⟩ := evolves.of_cancelled cancelled
    exact ⟨List.self_eq_append_right.mp (unwritten.symm.trans written), unchanged⟩
  · rintro early met late rfl interrupts
    obtain ⟨last, started, reached, live, journal, same, kept⟩ :=
      evolves.of_interrupted written interrupts
    have replaced (lost : met.lostRace = true) :
        after.cache = { started.cache with stream := some access.freshStream } := by
      obtain ⟨sent, creation, provisioned⟩ := Exchange.provisioned?_of_lostRace lost
      have isFresh := fresh met (List.mem_append_right _ (.head _)) sent creation
      rw [kept, (started.cache.after_of_lostRace lost).1, provisioned, isFresh]
    refine ⟨last, started, reached, live, journal, same, ?_, replaced, ?_⟩
    · intro abandoned
      obtain ⟨client, request, reply⟩ := met
      obtain rfl : reply = .abandoned := abandoned
      exact kept.trans (started.cache.after_of_abandoned client request)
    · cases race : met.lostRace with
      | false => exact iff_of_true (kept.trans (started.cache.after_eq_recording race)) nofun
      | true =>
        rw [replaced race, (started.cache.after_of_lostRace race).2]
        constructor
        · intro unchanged _
          exact (congrArg Cache.stream unchanged).symm
        · intro there
          rw [← there rfl]
  · intro now client request unanswered
    exact ⟨.cancelled, now.exec_call_of_unanswered client request unanswered, rfl⟩

/-- The request is cancelled while a stream is created that another writer has created meanwhile. -/
def racedAtTheEnd : Scripted :=
  { racedPlane with
    user := { racedPlane.user with
      interruptions := .ofList [("create_image_stream", .finish)] } }

/-- After the cancellation the stream that was fetched is gone, although no call has answered
another one. -/
theorem cancelled_race_replaces_stream :
    let scope := StreamAccess.app.run racedAtTheEnd [{ operation := .read .tags }]
    let errand : Errand (NoStore LimitRangeList) := .common (.createMapping "v2" {})
    let after := errand.after .app scope
    ¬ ∀ early met late, after.journal = scope.journal ++ (early ++ met :: late) →
        Scope.cancelledBy met.reply = true →
        ∃ started : Scope Scripted, scope.Evolves (fun _ => true) started ∧
          started.journal = scope.journal ++ early ∧
          after.cache = started.cache.recording met := by
  intro scope errand after records
  let refused : Exchange := ⟨.registry, .createMapping (StreamAccess.app.mapping "v2" {}),
    .completed (.error (StreamAccess.mappingFailure .notFound .notFound)) false⟩
  let lost : Exchange := ⟨.user, .createStream StreamAccess.app.freshStream,
    .completed (.error { status := .conflict, reason := .alreadyExists, message := "" }) true⟩
  have written : after.journal = scope.journal ++ ([refused] ++ lost :: []) := by
    with_unfolding_all rfl
  obtain ⟨started, reached, journal, recorded⟩ := records [refused] lost [] written rfl
  -- Before the creation nothing has touched the stream that was fetched.
  have held : started.cache.stream = some recordedStream := by
    rw [reached.cache_eq_foldl journal]
    decide +kernel
  have kept : after.cache.stream = started.cache.stream := congrArg Cache.stream recorded
  have replaced : after.cache.stream = some StreamAccess.app.freshStream := by decide +kernel
  rw [kept, held] at replaced
  exact absurd replaced (by decide +kernel)

end Errand

end ContainerStreams
