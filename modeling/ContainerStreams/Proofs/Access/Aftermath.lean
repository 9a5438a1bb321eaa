import ContainerStreams.ControlPlane.Scripted
import ContainerStreams.Proofs.Access.Course

set_option autoImplicit false

namespace ContainerStreams

namespace Cache

def keeping (cache : Cache) (stream : ImageStream) : Cache :=
  { cache with stream := some stream }

theorem foldl_keeping (cache : Cache) (streams : List ImageStream) :
    (streams.foldl keeping cache).layers = cache.layers ∧
      (streams.foldl keeping cache).images = cache.images := by
  induction streams generalizing cache with
  | nil => exact ⟨rfl, rfl⟩
  | cons stream rest ih => exact ih (cache.keeping stream)

/-- Of the writes, only the creation of a stream is kept. -/
theorem after_of_isWrite (cache : Cache) {exchange : Exchange}
    (write : exchange.request.isWrite = true) :
    cache.after exchange = exchange.provisioned?.elim cache cache.keeping := by
  obtain ⟨client, request, reply⟩ := exchange
  cases request with
  | createStream sent => exact cache.after_createStream client sent reply
  | createMapping mapping => rfl
  | _ => cases write

theorem foldl_after_of_isWrite (cache : Cache) {calls : List Exchange}
    (writes : ∀ exchange ∈ calls, exchange.request.isWrite = true) :
    calls.foldl after cache = (calls.filterMap Exchange.provisioned?).foldl keeping cache := by
  induction calls generalizing cache with
  | nil => rfl
  | cons exchange rest ih =>
    have ⟨write, others⟩ := List.forall_mem_cons.mp writes
    rw [List.foldl_cons, ih _ others, cache.after_of_isWrite write]
    cases created : exchange.provisioned? with
    | none => rw [List.filterMap_cons_none created, Option.elim_none]
    | some stream => rw [List.filterMap_cons_some created, Option.elim_some, List.foldl_cons]

end Cache

/-- Writing keeps the streams that are provisioned, one after the other, and nothing else. -/
theorem Scope.Evolves.cache_of_isWrite {σ : Type} [ControlPlane σ] {before after : Scope σ}
    {calls : List Exchange} (evolves : before.Evolves Request.isWrite after)
    (written : after.journal = before.journal ++ calls) :
    after.cache = (calls.filterMap Exchange.provisioned?).foldl Cache.keeping before.cache := by
  obtain ⟨made, same, allWrites⟩ := evolves.calls
  obtain rfl : made = calls := List.append_cancel_left (same.symm.trans written)
  rw [evolves.cache_eq_foldl written, before.cache.foldl_after_of_isWrite allWrites]

namespace Request

def isMapping : Request → Bool
  | .createMapping _ => true
  | _ => false

def isCreation : Request → Bool
  | .createStream _ => true
  | _ => false

end Request

theorem Exchange.failure?_eq_some_iff (exchange : Exchange) (cause : ApiError) :
    exchange.failure? = some cause ↔ Scope.received exchange.reply = .error cause := by
  unfold failure?
  cases Scope.received exchange.reply with
  | ok value => exact iff_of_false nofun nofun
  | error met => simp

/-- No stream comes from a call unless it is a creation that succeeds or finds one there. -/
theorem Exchange.provisioned?_eq_none_iff (exchange : Exchange) : exchange.provisioned? = none ↔
    (exchange.request.isCreation = true → ∃ cause, exchange.failure? = some cause ∧
      cause.reason ≠ .alreadyExists ∧ cause.reason ≠ .conflict) := by
  obtain ⟨client, request, reply⟩ := exchange
  cases request with
  | createStream sent =>
    simp only [failure?_eq_some_iff, provisioned?]
    cases Scope.received reply with
    | ok created => simp [createdStream?, Request.isCreation]
    | error cause =>
      simp [createdStream?, Request.isCreation, ApiError.isAlreadyExists, ApiError.isConflict]
  | _ => exact iff_of_true rfl fun creation => absurd creation Bool.false_ne_true

/-- One of the calls is of the kind and met a failure with the property. -/
def Fails (calls : List Exchange) (kind : Request → Bool) (property : ApiError → Prop) : Prop :=
  ∃ exchange ∈ calls, kind exchange.request = true ∧
    ∃ cause, exchange.failure? = some cause ∧ property cause

def LacksProject (cause : ApiError) : Prop :=
  cause.reason = .notFound ∧
    ∃ kind, cause.detailsKind? = some kind ∧ kind.toLower = "namespaces"

/-- The failure refuses the user a new stream, and not because there is one already. -/
def RefusesUser (cause : ApiError) : Prop :=
  (cause.reason ≠ .alreadyExists ∧ cause.reason ≠ .conflict) ∧
    (cause.reason = .forbidden ∨ cause.reason = .unauthorized ∨ cause.isQuotaExceeded = true)

/-- A mapping was refused by quota, or the first one for want of its project, or the user was
refused the creation of the stream. -/
def Denied (calls : List Exchange) : Prop :=
  Fails calls Request.isMapping (fun cause => cause.isQuotaExceeded = true) ∨
    Fails (calls.take 1) Request.isMapping LacksProject ∨
    Fails calls Request.isCreation RefusesUser

section Fails

variable {kind : Request → Bool} {property : ApiError → Prop}

theorem fails_append_iff (first second : List Exchange) :
    Fails (first ++ second) kind property ↔
      Fails first kind property ∨ Fails second kind property := by
  simp only [Fails, List.mem_append, or_and_right, exists_or]

theorem Called.fails_iff {client : Client} {request : Request} {reply : Reply request.Answer}
    {before after : Bool} {calls : List Exchange} {result : Except ApiError request.Answer}
    (called : Called client request reply before calls result after)
    (unlike : ¬ property .cancelled) :
    Fails calls kind property ↔
      kind request = true ∧ ∃ cause, result = .error cause ∧ property cause := by
  cases called with
  | refused =>
    refine iff_of_false (fun ⟨_, member, _⟩ => List.not_mem_nil member) ?_
    rintro ⟨-, cause, same, holds⟩
    cases same
    exact unlike holds
  | started =>
    simp only [Fails, List.mem_singleton, exists_eq_left, Exchange.failure?_eq_some_iff]

end Fails

theorem Failure.isMissingProject_iff (cause : ApiError) :
    isMissingProject cause = true ↔ LacksProject cause := by
  simp [isMissingProject, ApiError.isNotFound, LacksProject, Option.any_eq_true]

theorem Failure.isDenied_iff (cause : ApiError) : isDenied cause = true ↔
    cause.reason = .forbidden ∨ cause.reason = .unauthorized ∨ cause.isQuotaExceeded = true := by
  simp [isDenied, ApiError.isForbidden, ApiError.isUnauthorized, or_assoc]

theorem not_lacksProject_cancelled : ¬ LacksProject .cancelled := by
  rintro ⟨⟨⟩, -⟩

theorem not_refusesUser_cancelled : ¬ RefusesUser .cancelled := by
  simp [RefusesUser, ApiError.cancelled, ApiError.isQuotaExceeded]

section Mapping

variable {mapping : StreamMapping} {client : Client}
  {reply : Reply (Request.Answer (.createMapping mapping))} {before after : Bool}
  {calls : List Exchange} {result : Except ApiError (Request.Answer (.createMapping mapping))}

theorem Called.filterMap_provisioned?
    (called : Called client (.createMapping mapping) reply before calls result after) :
    calls.filterMap Exchange.provisioned? = [] := by
  cases called with
  | refused => rfl
  | started => rfl

theorem Called.denied_iff
    (called : Called client (.createMapping mapping) reply before calls result after) :
    Denied calls ↔ ∃ cause, result = .error cause ∧
      (cause.isQuotaExceeded || Failure.isMissingProject cause) = true := by
  have only : calls.take 1 = calls := List.take_of_length_le called.length_le
  rw [Denied, only, called.fails_iff (by decide), called.fails_iff not_lacksProject_cancelled,
    called.fails_iff not_refusesUser_cancelled]
  simp [Request.isMapping, Request.isCreation, Failure.isMissingProject_iff, and_or_left, exists_or]

end Mapping

theorem denied_cons_iff (exchange : Exchange) (rest : List Exchange) :
    Denied (exchange :: rest) ↔ Denied [exchange] ∨
      Fails rest Request.isMapping (fun cause => cause.isQuotaExceeded = true) ∨
        Fails rest Request.isCreation RefusesUser := by
  have parted {kind : Request → Bool} {property : ApiError → Prop} :
      Fails (exchange :: rest) kind property ↔
        Fails [exchange] kind property ∨ Fails rest kind property :=
    fails_append_iff [exchange] rest
  simp only [Denied, parted, List.take_succ_cons, List.take_zero, or_assoc, or_left_comm]

namespace StreamAccess

variable {access : StreamAccess} {tag : String} {image : Image} {reply : Reply Unit}
  {before after : Bool} {calls : List Exchange}

/-- Where the stream is missing, the first mapping has no part in what is denied. -/
theorem denied_append_iff {cause : ApiError}
    (write : Called .registry (access.mappingRequest tag image) reply before calls (.error cause)
      after) (missing : access.isFinal cause = false) (rest : List Exchange) :
    Denied (calls ++ rest) ↔
      Fails rest Request.isMapping (fun cause => cause.isQuotaExceeded = true) ∨
        Fails rest Request.isCreation RefusesUser := by
  have undenied : ¬ Denied calls := by
    rw [write.denied_iff]
    rintro ⟨met, ⟨⟩, denied⟩
    simp [isFinal, denied] at missing
  obtain ⟨-, rfl, -⟩ := write.started_of_ne (access.ne_cancelled_of_missing missing)
  rw [List.singleton_append, denied_cons_iff, or_iff_right undenied]

theorem exists_of_provisionedBy_eq_error {answer : Except ApiError ImageStream} {failure : Failure}
    (failed : access.provisionedBy answer = .error failure) : ∃ cause, answer = .error cause ∧
      (cause.reason ≠ .alreadyExists ∧ cause.reason ≠ .conflict) ∧
        failure = .provisioningFailed cause := by
  cases answer with
  | ok created => cases failed
  | error cause =>
    by_cases there : (cause.isAlreadyExists || cause.isConflict) = true
    · rw [provisionedBy, if_pos there] at failed
      cases failed
    · rw [provisionedBy, if_neg there] at failed
      cases failed
      refine ⟨cause, rfl, ?_, rfl⟩
      simpa [ApiError.isAlreadyExists, ApiError.isConflict] using there

theorem not_refusesUser_of_provisioned {cause : ApiError} {stream : ImageStream}
    (provisioned : access.provisionedBy (.error cause) = .ok stream) : ¬ RefusesUser cause := by
  rintro ⟨⟨fresh, settled⟩, -⟩
  simp [provisionedBy, ApiError.isAlreadyExists, ApiError.isConflict, fresh, settled] at provisioned

namespace Course

/-- A failure is forbidden if the recording was denied, and unknown if not. -/
theorem code_of_error {failure : Failure}
    (course : Course access tag image reply before calls (.error failure)) :
    (Denied calls ∧ failure.code = .forbidden) ∨ (¬ Denied calls ∧ failure.code = .unknown) := by
  -- In each course one check of the cause gives the code, and it says whether there was a denial.
  have settled {denied : Bool} (same : Denied calls ↔ denied = true)
      (told : failure.code = if denied then .forbidden else .unknown) :
      (Denied calls ∧ failure.code = .forbidden) ∨ (¬ Denied calls ∧ failure.code = .unknown) := by
    rw [same, told]
    cases denied <;> simp
  generalize ended : Except.error failure = result at course
  cases course with
  | recorded write => cases ended
  | @refused calls after cause write final =>
    cases ended
    apply settled _ rfl
    rw [write.denied_iff]
    simp
  | @unprovisioned first second middle after cause met answer failure write missing creation
      failed =>
    cases ended
    obtain ⟨cause, rfl, elsewise, rfl⟩ := exists_of_provisionedBy_eq_error failed
    apply settled _ rfl
    rw [denied_append_iff write missing, creation.fails_iff (by decide),
      creation.fails_iff not_refusesUser_cancelled, Failure.isDenied_iff]
    simp [Request.isMapping, Request.isCreation, RefusesUser, elsewise]
  | @retried first second third middle late after cause met answer stream last result write missing
      creation provisioned again =>
    cases result with
    | ok value => cases ended
    | error cause =>
      cases ended
      have unrefused : ¬ ∃ cause, answer = .error cause ∧ RefusesUser cause := by
        rintro ⟨cause, rfl, refuses⟩
        exact not_refusesUser_of_provisioned provisioned refuses
      apply settled _ rfl
      rw [denied_append_iff write missing, fails_append_iff, fails_append_iff,
        creation.fails_iff (by decide), creation.fails_iff not_refusesUser_cancelled,
        again.fails_iff (by decide), again.fails_iff not_refusesUser_cancelled]
      simp [Request.isMapping, Request.isCreation, unrefused]

/-- At most one stream is provisioned. -/
theorem length_provisioned_le {result : Except Failure Unit}
    (course : Course access tag image reply before calls result) :
    (calls.filterMap Exchange.provisioned?).length ≤ 1 := by
  cases course with
  | recorded write => exact Nat.le_trans (List.length_filterMap_le _ _) write.length_le
  | refused write final => exact Nat.le_trans (List.length_filterMap_le _ _) write.length_le
  | unprovisioned write missing creation failed =>
    rw [List.filterMap_append, write.filterMap_provisioned?, List.nil_append]
    exact Nat.le_trans (List.length_filterMap_le _ _) creation.length_le
  | retried write missing creation provisioned again =>
    rw [List.filterMap_append, List.filterMap_append, write.filterMap_provisioned?,
      again.filterMap_provisioned?, List.nil_append, List.append_nil]
    exact Nat.le_trans (List.length_filterMap_le _ _) creation.length_le

end Course

/-- A failure to record an image is told as forbidden if a mapping was refused by quota, or the
first one for want of its project, or the user was refused the creation of the stream, and as
unknown in all other cases.

A stream is kept if and when its creation is answered by success or because there is one already,
which happens once at most, whatever becomes of the second mapping. Before that, and on all other
paths, the cache is as it was; the layers and the images always are. -/
theorem createMapping_aftermath {σ : Type} [ControlPlane σ] (access : StreamAccess) (tag : String)
    (image : Image) (scope : Scope σ) :
    let (result, after) := scope.exec (access.createMapping tag image).run
    ∃ calls, after.journal = scope.journal ++ calls ∧
      (∀ failure, result = .error failure →
        (Denied calls → failure.code = .forbidden) ∧
          (¬ Denied calls → failure.code = .unknown)) ∧
      let provisioned := calls.filterMap Exchange.provisioned?
      (provisioned = [] ↔ ∀ exchange ∈ calls, exchange.request.isCreation = true →
        ∃ cause, exchange.failure? = some cause ∧
          cause.reason ≠ .alreadyExists ∧ cause.reason ≠ .conflict) ∧
      provisioned.length ≤ 1 ∧
      after.cache = provisioned.foldl Cache.keeping scope.cache ∧
      (after.cache.layers = scope.cache.layers ∧ after.cache.images = scope.cache.images) ∧
      ∀ early met late, calls = early ++ met :: late → ∃ started : Scope σ,
        scope.Evolves Request.isWrite started ∧ started.journal = scope.journal ++ early ∧
          met = started.exchange met.client met.request ∧
          started.cache =
            (early.filterMap Exchange.provisioned?).foldl Cache.keeping scope.cache := by
  obtain ⟨calls, written, course⟩ := access.createMapping_course tag image scope
  have evolves := access.createMapping_evolves tag image scope
  generalize scope.exec (access.createMapping tag image).run = outcome at written course evolves ⊢
  obtain ⟨result, after⟩ := outcome
  have kept := evolves.cache_of_isWrite written
  have untouched := scope.cache.foldl_keeping (calls.filterMap Exchange.provisioned?)
  refine ⟨calls, written, ?_, ?_, course.length_provisioned_le, kept, kept ▸ untouched, ?_⟩
  · intro failure failed
    subst failed
    rcases course.code_of_error with ⟨denied, forbidden⟩ | ⟨undenied, unknown⟩
    · exact ⟨fun _ => forbidden, fun undenied => absurd denied undenied⟩
    · exact ⟨fun denied => absurd denied undenied, fun _ => unknown⟩
  · simp only [List.filterMap_eq_nil_iff, Exchange.provisioned?_eq_none_iff]
  · rintro early met late rfl
    obtain ⟨started, reached, -, journal, same, -⟩ := evolves.exists_started written
    exact ⟨started, reached, journal, same, reached.cache_of_isWrite journal⟩

/-- The stream stays in the cache although the second mapping fails. -/
example :
    let access : StreamAccess := { project := "ns", name := "app" }
    let quota : ApiError :=
      { status := .forbidden, reason := .forbidden, message := "exceeded quota: images" }
    let plane : Scripted := { registry :=
      { mappingResults := [some (.notFound "imagestreammappings" "app"), some quota] } }
    let ended := Scope.exec { plane } (access.createMapping "latest" {}).run
    ended.1.isOk = false ∧ ended.2.journal.length = 3 ∧
      ended.2.cache.stream = some (.named "ns" "app") := by
  decide +kernel

end StreamAccess

end ContainerStreams
