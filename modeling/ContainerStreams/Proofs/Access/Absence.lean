import ContainerStreams.Proofs.Access.Membership

/-!
When an image is reported as absent. A lookup stops at the first call that fails, and its failure
accounts for that call. Showing an image takes up to two lookups, and the failure of the first is
not told. Main statement: an image is reported as absent only if the second lookup has found that it
has no parent or does not exist, and no call of that lookup has then failed for another reason; the
only call that may have done so is the one that ended the first lookup.
-/

set_option autoImplicit false

namespace ContainerStreams

def LookupFailure.error : LookupFailure → ApiError
  | .notFound error => error
  | .forbidden error => error
  | .unknown error => error

theorem LookupFailure.error_ofApiError (error : ApiError) : (ofApiError error).error = error := by
  unfold ofApiError
  split
  · rfl
  · split <;> rfl

/-- The call that a lookup failed with, and what it met. -/
def StreamAccess.failedCall? (access : StreamAccess) : Failure → Option (Request × ApiError)
  | .streamUnavailable _ cause => some (.imageStream access.project access.name, cause.error)
  | .layersUnavailable cause => some (.streamLayers access.project access.name, cause.error)
  | .imageUnavailable digest cause => some (.image digest.text, cause)
  | .parentUnresolved _ cause => access.failedCall? cause
  | _ => none

def AllSucceed (calls : List Exchange) : Prop :=
  ∀ exchange ∈ calls, exchange.failure? = none

/-- The last of the calls is the request and failed with the cause, and all before it succeeded. -/
def EndsIn (calls : List Exchange) (request : Request) (cause : ApiError) : Prop :=
  ∃ done last, calls = done ++ [last] ∧ AllSucceed done ∧ last.request = request ∧
    last.failure? = some cause

/-- The calls of something that stops at the first failure: none failed unless there is a failed
call to account for, which is then the last one, or was refused to a cancelled request. -/
def AccountFor (calls : List Exchange) : Option (Request × ApiError) → Prop
  | none => AllSucceed calls
  | some (request, cause) => EndsIn calls request cause ∨ AllSucceed calls ∧ cause = .cancelled

section Calls

variable {calls done : List Exchange} {failed? : Option (Request × ApiError)}

theorem AllSucceed.nil : AllSucceed [] :=
  List.forall_mem_nil _

theorem AllSucceed.append (first : AllSucceed done) (second : AllSucceed calls) :
    AllSucceed (done ++ calls) := by
  intro exchange member
  rcases List.mem_append.mp member with early | late
  · exact first exchange early
  · exact second exchange late

theorem AccountFor.prepend (first : AllSucceed done) (accounts : AccountFor calls failed?) :
    AccountFor (done ++ calls) failed? := by
  cases failed? with
  | none => exact first.append accounts
  | some failed =>
    rcases accounts with ⟨more, last, rfl, succeed, same, fails⟩ | ⟨succeed, refused⟩
    · refine .inl ⟨done ++ more, last, ?_, first.append succeed, same, fails⟩
      rw [List.append_assoc]
    · exact .inr ⟨first.append succeed, refused⟩

theorem EndsIn.eq_of_failure? {request : Request} {cause other : ApiError} {exchange : Exchange}
    (ended : EndsIn calls request cause) (member : exchange ∈ calls)
    (failed : exchange.failure? = some other) : other = cause := by
  obtain ⟨done, last, rfl, succeed, -, met⟩ := ended
  rcases List.mem_append.mp member with earlier | isLast
  · rw [succeed exchange earlier] at failed
    cases failed
  · rw [List.mem_singleton.mp isLast, met] at failed
    exact (Option.some.inj failed).symm

end Calls

variable {σ ε α β : Type}

/-- The action stops at the first call that fails, and its failure tells which one that was. -/
def StopsAtFailure (action : Action σ ε α) (failed? : ε → Option (Request × ApiError)) : Prop :=
  ∀ scope : Scope σ, ∃ calls, (scope.exec action.run).2.journal = scope.journal ++ calls ∧
    AccountFor calls (match (scope.exec action.run).1 with
      | .ok _ => none
      | .error error => failed? error)

namespace StopsAtFailure

variable {failed? : ε → Option (Request × ApiError)}

theorem pure (value : α) : StopsAtFailure (σ := σ) (pure value) failed? := by
  intro scope
  exact ⟨[], (List.append_nil _).symm, AllSucceed.nil⟩

theorem throw (error : ε) (uncalled : failed? error = none) :
    StopsAtFailure (σ := σ) (α := α) (throw error) failed? := by
  intro scope
  refine ⟨[], (List.append_nil _).symm, ?_⟩
  change AccountFor [] (failed? error)
  rw [uncalled]
  exact AllSucceed.nil

theorem adapt {ε' : Type} {outer? : ε' → Option (Request × ApiError)} {action : Action σ ε α}
    (stops : StopsAtFailure action failed?) (change : ε → ε')
    (same : ∀ error, outer? (change error) = failed? error) :
    StopsAtFailure (action.adapt change) outer? := by
  intro scope
  obtain ⟨calls, written, accounts⟩ := stops scope
  refine ⟨calls, written, ?_⟩
  rw [Scope.exec_run_adapt]
  cases outcome : (scope.exec action.run).1 with
  | ok value =>
    rw [outcome] at accounts
    exact accounts
  | error error =>
    rw [outcome] at accounts
    dsimp only [Except.mapError]
    rw [same]
    exact accounts

/-- What follows is only done if no call has failed. -/
theorem bind {action : Action σ ε α} {next : α → Action σ ε β}
    (first : StopsAtFailure action failed?) (rest : ∀ value, StopsAtFailure (next value) failed?) :
    StopsAtFailure (action >>= next) failed? := by
  intro scope
  obtain ⟨done, written, accounts⟩ := first scope
  rw [Scope.exec_run_bind]
  cases outcome : scope.exec action.run with
  | mk result middle =>
    rw [outcome] at written accounts
    cases result with
    | error error => exact ⟨done, written, accounts⟩
    | ok value =>
      obtain ⟨calls, continued, further⟩ := rest value middle
      refine ⟨done ++ calls, ?_, further.prepend accounts⟩
      rw [← List.append_assoc, ← written]
      exact continued

section Fetch

variable [ControlPlane σ]

/-- A fetch answers what is held, and otherwise stands and falls with one call. -/
theorem of_obtain (request : Request) {action : Action σ ε request.Answer}
    {held : Cache → Option request.Answer} {keep : Cache → request.Answer → Cache}
    (fetching : Fetches action.run held keep) (change : ApiError → ε)
    (calls : ∀ scope : Scope σ, held scope.cache = none →
      scope.exec action.run = scope.obtain change request)
    (same : ∀ cause, failed? (change cause) = some (request, cause)) :
    StopsAtFailure action failed? := by
  intro scope
  cases known : held scope.cache with
  | some value =>
    rw [fetching.answers scope value known]
    exact ⟨[], (List.append_nil _).symm, AllSucceed.nil⟩
  | none =>
    rw [calls scope known, Scope.obtain]
    split
    · refine ⟨[], (List.append_nil _).symm, ?_⟩
      dsimp only
      rw [same]
      exact .inr ⟨.nil, rfl⟩
    · refine ⟨[scope.exchange .registry request], rfl, ?_⟩
      cases met : Scope.received (scope.reply .registry request) with
      | ok value =>
        refine List.forall_mem_singleton.mpr ?_
        simp [Exchange.failure?, Scope.exchange, met]
      | error cause =>
        dsimp only [Except.mapError]
        rw [same]
        refine .inl ⟨[], _, rfl, .nil, rfl, ?_⟩
        simp [Exchange.failure?, Scope.exchange, met]

variable (access : StreamAccess)

theorem fetchStream : StopsAtFailure (σ := σ) access.fetchStream fun failure =>
    some (.imageStream access.project access.name, failure.error) := by
  apply of_obtain (.imageStream access.project access.name) access.fetches_stream
    LookupFailure.ofApiError
  · intro scope unknown
    rw [access.exec_fetchStream, unknown]
  · intro cause
    rw [LookupFailure.error_ofApiError]

theorem fetchLayers : StopsAtFailure (σ := σ) access.fetchLayers fun failure =>
    some (.streamLayers access.project access.name, failure.error) := by
  apply of_obtain (.streamLayers access.project access.name) access.fetches_layers
    LookupFailure.ofApiError
  · intro scope unknown
    rw [access.exec_fetchLayers, unknown]
  · intro cause
    rw [LookupFailure.error_ofApiError]

theorem fetchImage (digest : ContentDigest) :
    StopsAtFailure (σ := σ) (StreamAccess.fetchImage digest)
      fun cause => some (.image digest.text, cause) := by
  apply of_obtain (.image digest.text) (StreamAccess.fetches_image digest) id
  · intro scope unknown
    rw [StreamAccess.exec_fetchImage, unknown]
  · intro cause
    rfl

theorem eventOf (imageId : String) :
    StopsAtFailure (σ := σ) (access.eventOf imageId) access.failedCall? := by
  have stream : StopsAtFailure (σ := σ) (access.streamFor .resolveImageId) access.failedCall? :=
    (fetchStream access).adapt (Failure.streamUnavailable .resolveImageId) fun _ => rfl
  apply stream.bind
  intro stream
  cases stream.resolveImageId imageId with
  | ok event => exact pure event
  | error cause => exact throw _ rfl

theorem imageOf (digest : ContentDigest) :
    StopsAtFailure (σ := σ) (StreamAccess.imageOf digest) access.failedCall? :=
  (fetchImage digest).adapt (Failure.imageUnavailable digest) fun _ => rfl

theorem recordedImage (digest : ContentDigest) :
    StopsAtFailure (σ := σ) (access.recordedImage digest) access.failedCall? := by
  have stored : StopsAtFailure (σ := σ) (access.storedImage digest) access.failedCall? := by
    apply (eventOf access digest.text).bind
    intro event
    apply (imageOf access digest).bind
    intro image
    exact pure _
  apply stored.bind
  intro found
  exact pure _

theorem parentReference (digest : ContentDigest) :
    StopsAtFailure (σ := σ) (access.parentReference digest) access.failedCall? := by
  have layers : StopsAtFailure (σ := σ) (access.fetchLayers.adapt Failure.layersUnavailable)
      access.failedCall? :=
    (fetchLayers access).adapt Failure.layersUnavailable fun _ => rfl
  apply layers.bind
  intro layers
  cases layers.parentOf? digest with
  | none => exact throw _ rfl
  | some parent =>
    have event : StopsAtFailure (σ := σ)
        ((access.eventOf parent).adapt (Failure.parentUnresolved parent)) access.failedCall? :=
      (eventOf access parent).adapt (Failure.parentUnresolved parent) fun _ => rfl
    apply event.bind
    intro event
    cases ImageReference.parse event.pullReference with
    | ok reference => exact pure _
    | error cause => exact throw _ rfl

theorem childImage (digest : ContentDigest) :
    StopsAtFailure (σ := σ) (access.childImage digest) access.failedCall? := by
  apply (parentReference access digest).bind
  intro reference
  apply (imageOf access digest).bind
  intro image
  exact pure _

end Fetch

end StopsAtFailure

/-- Unless the list lookup fails as unknown, it has found that the digest has no parent, or that
there is no image. -/
theorem Sources.absent_of_childImage {sources : Sources} {defaults : DefaultRegistry}
    {digest : ContentDigest} {failure : Failure}
    (fails : sources.childImage defaults digest = .error failure) :
    failure.code = .unknown ∨
      (∃ layers, sources.layers = .ok layers ∧ layers.parentOf? digest = none ∧
        failure = .parentMissing digest) ∨
      ∃ cause, cause.isNotFound = true ∧ failure = .imageUnavailable digest cause := by
  rcases bind_eq_error_iff.mp fails with unreferenced | ⟨reference, -, unshown⟩
  · rcases bind_eq_error_iff.mp unreferenced with unlayered | ⟨layers, fetched, orphaned⟩
    · obtain ⟨cause, -, rfl⟩ := mapError_eq_error_iff.mp unlayered
      exact .inl rfl
    · unfold referenceIn at orphaned
      cases found : layers.parentOf? digest with
      | none =>
        rw [found] at orphaned
        cases orphaned
        exact .inr (.inl ⟨layers, mapError_eq_ok_iff.mp fetched, found, rfl⟩)
      | some parent =>
        rw [found] at orphaned
        rcases bind_eq_error_iff.mp orphaned with unresolved | ⟨event, -, unread⟩
        · obtain ⟨cause, -, rfl⟩ := mapError_eq_error_iff.mp unresolved
          exact .inl rfl
        · unfold referenceBy at unread
          split at unread
          · cases unread
          · cases unread
            exact .inl rfl
  · rcases bind_eq_error_iff.mp unshown with unfetched | ⟨image, -, shown⟩
    · obtain ⟨cause, -, rfl⟩ := mapError_eq_error_iff.mp unfetched
      cases absent : cause.isNotFound with
      | true => exact .inr (.inr ⟨cause, absent, rfl⟩)
      | false => exact .inl (by simp [Failure.code, absent])
    · cases shown

namespace StreamAccess

variable [ControlPlane σ]

/-- What shows no image has failed to show a recorded one, and then a child. -/
theorem exec_resolve_of_error {access : StreamAccess} {digest : ContentDigest} {scope : Scope σ}
    {failure : Failure} (fails : (scope.exec (access.resolve digest).run).1 = .error failure) :
    ∃ direct middle, scope.exec (access.recordedImage digest).run = (.error direct, middle) ∧
      scope.exec (access.resolve digest).run = middle.exec (access.childImage digest).run := by
  rw [exec_resolve] at fails ⊢
  cases outcome : scope.exec (access.recordedImage digest).run with
  | mk result middle =>
    rw [outcome] at fails
    cases result with
    | ok image => cases fails
    | error direct => exact ⟨direct, middle, rfl, rfl⟩

/-- An image that cannot be shown is unknown or absent. It is absent only if the list lookup has met
no failure but that something is not found, and has learnt from the layers that there is no parent,
or from its last call that there is no image. The direct lookup before it may have ended with a call
that failed for any reason, which is not told; all its other calls succeeded. -/
theorem absence_is_found_by_list_lookup (access : StreamAccess) (digest : ContentDigest)
    (scope : Scope σ) (failure : Failure)
    (fails : (scope.exec (access.resolve digest).run).1 = .error failure) :
    let after := (scope.exec (access.resolve digest).run).2
    ∃ direct middle early late,
      scope.exec (access.recordedImage digest).run = (.error direct, middle) ∧
      middle.journal = scope.journal ++ early ∧ after.journal = middle.journal ++ late ∧
      AccountFor early (access.failedCall? direct) ∧
      (failure.code = .unknown ∨ failure.code = .imageNotFound ∧
        (∀ exchange ∈ late, ∀ cause ∈ exchange.failure?, cause.isNotFound = true) ∧
        ((∃ layers, after.cache.layers = some layers ∧ ∀ parent, ¬ layers.Lists parent digest) ∨
          ∃ cause, cause.isNotFound = true ∧ EndsIn late (.image digest.text) cause)) := by
  obtain ⟨direct, middle, recorded, course⟩ := exec_resolve_of_error fails
  rw [course] at fails ⊢
  intro after
  obtain ⟨early, written, accounts⟩ := StopsAtFailure.recordedImage access digest scope
  rw [recorded] at written accounts
  obtain ⟨late, continued, further⟩ := StopsAtFailure.childImage access digest middle
  rw [fails] at further
  obtain ⟨sources, consults, answer⟩ := Answers.childImage access digest middle
  refine ⟨direct, middle, early, late, recorded, written, continued, accounts, ?_⟩
  rcases Sources.absent_of_childImage (answer.symm.trans fails) with
    unknown | ⟨layers, fetched, found, rfl⟩ | ⟨cause, absent, rfl⟩
  · exact .inl unknown
  · refine .inr ⟨rfl, ?_, .inl ⟨layers, ?_, fun parent => ?_⟩⟩
    · intro exchange member cause failed
      rw [further exchange member] at failed
      cases failed
    · exact (Sources.layers_ofCache_iff _ _).mp (consults.kept.layers layers fetched)
    · exact StreamLayers.not_lists_of_parentOf? found
  · have ended : EndsIn late (.image digest.text) cause := by
      rcases further with ended | ⟨-, rfl⟩
      · exact ended
      · cases absent
    refine .inr ⟨if_pos absent, ?_, .inr ⟨cause, absent, ended⟩⟩
    intro exchange member other failed
    rw [ended.eq_of_failure? member failed]
    exact absent

/-- A stream without manifest lists, and the image it records cannot be fetched for the moment. -/
def ailing : Scope Scripted where
  plane := { registry := {
    streams := .ofList [("ns/app", { status := { tags := [tagTo "v1" shortDigest] } })]
    layers := .ofList [("ns/app", {})]
    imageFailures := .ofList [(shortDigest.text, .internal "etcd timeout")] } }

theorem exec_resolve_ailing :
    (ailing.exec (app.resolve shortDigest).run).1 = .error (.parentMissing shortDigest) := by
  decide +kernel

theorem failed_fetch_ends_direct_lookup :
    ∃ failure early late, (ailing.exec (app.resolve shortDigest).run).1 = .error failure ∧
      failure.code = .imageNotFound ∧
      (ailing.exec (app.resolve shortDigest).run).2.journal = early ++ late ∧
      EndsIn early (.image shortDigest.text) (.internal "etcd timeout") := by
  obtain ⟨direct, middle, early, late, recorded, written, continued, accounts, -⟩ :=
    app.absence_is_found_by_list_lookup shortDigest ailing _ exec_resolve_ailing
  have unavailable : (ailing.exec (app.recordedImage shortDigest).run).1 =
      .error (.imageUnavailable shortDigest (.internal "etcd timeout")) := by
    decide +kernel
  rw [recorded] at unavailable
  cases unavailable
  refine ⟨_, early, late, exec_resolve_ailing, rfl, ?_, ?_⟩
  · rw [continued, written]
    rfl
  · rcases accounts with ended | ⟨-, refused⟩
    · exact ended
    · cases refused

/-- The fetch of the image fails with an internal error, and yet the image is reported as absent. -/
theorem failed_fetch_is_told_as_absence :
    ¬ ∀ failure, (ailing.exec (app.resolve shortDigest).run).1 = .error failure →
      failure.code = .imageNotFound →
      ∀ exchange ∈ (ailing.exec (app.resolve shortDigest).run).2.journal,
        ∀ cause ∈ exchange.failure?, cause.isNotFound = true := by
  intro claimed
  have hidden : ((ailing.exec (app.resolve shortDigest).run).2.journal.any fun exchange =>
      exchange.failure?.any fun cause => !cause.isNotFound) = true := by
    decide +kernel
  simp only [List.any_eq_true, Option.any_eq_true, Bool.not_eq_true'] at hidden
  obtain ⟨exchange, member, cause, failed, other⟩ := hidden
  have absent := claimed _ exec_resolve_ailing rfl exchange member cause failed
  rw [other] at absent
  cases absent

end StreamAccess

end ContainerStreams
