import ContainerStreams.Proofs.Access.Mapping

set_option autoImplicit false

namespace ContainerStreams

/-- The calls that one call comes to, what the caller gets, and whether the request is cancelled
before and after. A cancelled request starts none, and any other one meets the reply. -/
inductive Called (client : Client) (request : Request) (reply : Reply request.Answer) :
    Bool → List Exchange → Except ApiError request.Answer → Bool → Prop
  | refused : Called client request reply true [] (.error .cancelled) true
  | started : Called client request reply false [⟨client, request, reply⟩] (Scope.received reply)
      (Scope.cancelledBy reply)

namespace Exchange

def call (exchange : Exchange) : Client × Request := (exchange.client, exchange.request)

def acceptsMapping : Exchange → Bool
  | ⟨_, .createMapping _, .completed (.ok _) _⟩ => true
  | _ => false

end Exchange

namespace Called

variable {client : Client} {request : Request} {reply : Reply request.Answer}
  {before after : Bool} {calls : List Exchange} {result : Except ApiError request.Answer}

/-- Whatever is not the failure of a cancelled request has been met by the call. -/
theorem started_of_ne (called : Called client request reply before calls result after)
    (met : result ≠ .error .cancelled) :
    before = false ∧ calls = [⟨client, request, reply⟩] ∧ result = Scope.received reply := by
  cases called with
  | refused => exact absurd rfl met
  | started => exact ⟨rfl, rfl, rfl⟩

theorem calls_of_live (called : Called client request reply false calls result after) :
    calls = [⟨client, request, reply⟩] := by
  cases called with
  | started => rfl

theorem map_call_eq (called : Called client request reply before calls result after) :
    calls.map Exchange.call = if before then [] else [(client, request)] := by
  cases called with
  | refused => rfl
  | started => rfl

theorem call_prefix (called : Called client request reply before calls result after) :
    calls.map Exchange.call <+: [(client, request)] := by
  cases called with
  | refused => exact List.nil_prefix
  | started => exact List.prefix_rfl

theorem calls_eq_nil_iff (called : Called client request reply before calls result after) :
    calls = [] ↔ before = true := by
  cases called with
  | refused => exact iff_of_true rfl rfl
  | started => exact iff_of_false nofun nofun

theorem length_le (called : Called client request reply before calls result after) :
    calls.length ≤ 1 := by
  cases called with
  | refused => exact Nat.zero_le _
  | started => exact Nat.le_refl _

theorem pairwise (called : Called client request reply before calls result after)
    (relation : Exchange → Exchange → Prop) : calls.Pairwise relation := by
  cases called with
  | refused => exact .nil
  | started => exact List.pairwise_singleton _ _

/-- A mapping is accepted exactly if the caller is told so. -/
theorem any_accepts_eq {mapping : StreamMapping}
    {reply : Reply (Request.Answer (.createMapping mapping))}
    {result : Except ApiError (Request.Answer (.createMapping mapping))}
    (called : Called client (.createMapping mapping) reply before calls result after) :
    calls.any Exchange.acceptsMapping = result.isOk := by
  cases called with
  | refused => rfl
  | started => rcases reply with ⟨_ | _, _⟩ | _ <;> rfl

theorem any_accepts_eq_false {stream : ImageStream}
    {reply : Reply (Request.Answer (.createStream stream))}
    {result : Except ApiError (Request.Answer (.createStream stream))}
    (called : Called client (.createStream stream) reply before calls result after) :
    calls.any Exchange.acceptsMapping = false := by
  cases called with
  | refused => rfl
  | started => rfl

end Called

theorem Scope.exec_call_called {σ : Type} [ControlPlane σ] (scope : Scope σ) (client : Client)
    (request : Request) : ∃ calls,
    (scope.exec (call client request).run).2.journal = scope.journal ++ calls ∧
      Called client request (scope.reply client request) scope.cancelled calls
        (scope.exec (call client request).run).1
        (scope.exec (call client request).run).2.cancelled := by
  rw [exec_call]
  cases cancelled : scope.cancelled with
  | true =>
    rw [if_pos rfl]
    refine ⟨[], (List.append_nil _).symm, ?_⟩
    rw [cancelled]
    exact .refused
  | false =>
    rw [if_neg Bool.false_ne_true]
    exact ⟨[scope.exchange client request], rfl, .started⟩

namespace StreamAccess

abbrev mappingRequest (access : StreamAccess) (tag : String) (image : Image) : Request :=
  .createMapping (access.mapping tag image)

abbrev creationRequest (access : StreamAccess) : Request := .createStream access.freshStream

/-- How the recording of an image goes, if the request is cancelled before or else the reply is
what the first attempt meets. -/
inductive Course (access : StreamAccess) (tag : String) (image : Image) (reply : Reply Unit)
    (cancelled : Bool) : List Exchange → Except Failure Unit → Prop
  | recorded {calls : List Exchange} {after : Bool}
      (write : Called .registry (access.mappingRequest tag image) reply cancelled calls (.ok ())
        after) :
      Course access tag image reply cancelled calls (.ok ())
  | refused {calls : List Exchange} {after : Bool} {cause : ApiError}
      (write : Called .registry (access.mappingRequest tag image) reply cancelled calls
        (.error cause) after)
      (final : access.isFinal cause = true) :
      Course access tag image reply cancelled calls (.error (.mappingFailed .first cause))
  | unprovisioned {first second : List Exchange} {middle after : Bool} {cause : ApiError}
      {met : Reply ImageStream} {answer : Except ApiError ImageStream} {failure : Failure}
      (write : Called .registry (access.mappingRequest tag image) reply cancelled first
        (.error cause) middle)
      (missing : access.isFinal cause = false)
      (creation : Called .user access.creationRequest met middle second answer after)
      (failed : access.provisionedBy answer = .error failure) :
      Course access tag image reply cancelled (first ++ second) (.error failure)
  | retried {first second third : List Exchange} {middle late after : Bool} {cause : ApiError}
      {met : Reply ImageStream} {answer : Except ApiError ImageStream} {stream : ImageStream}
      {last : Reply Unit} {result : Except ApiError Unit}
      (write : Called .registry (access.mappingRequest tag image) reply cancelled first
        (.error cause) middle)
      (missing : access.isFinal cause = false)
      (creation : Called .user access.creationRequest met middle second answer late)
      (provisioned : access.provisionedBy answer = .ok stream)
      (again : Called .registry (access.mappingRequest tag image) last late third result after) :
      Course access tag image reply cancelled (first ++ (second ++ third))
        (result.mapError (.mappingFailed .second))

variable (access : StreamAccess) (tag : String) (image : Image)

/-- A request that is cancelled before the first attempt has failed for good. -/
theorem ne_cancelled_of_missing {cause : ApiError} (missing : access.isFinal cause = false) :
    (.error cause : Except ApiError Unit) ≠ .error .cancelled := by
  rintro ⟨⟩
  cases missing

theorem ne_cancelled_of_provisioned {answer : Except ApiError ImageStream} {stream : ImageStream}
    (provisioned : access.provisionedBy answer = .ok stream) : answer ≠ .error .cancelled := by
  rintro rfl
  cases provisioned

section Exec

variable {σ : Type} [ControlPlane σ] (scope : Scope σ)

theorem writeMapping_called : ∃ calls,
    (scope.exec (access.writeMapping tag image).run).2.journal = scope.journal ++ calls ∧
      Called .registry (access.mappingRequest tag image)
        (scope.reply .registry (access.mappingRequest tag image)) scope.cancelled calls
        (scope.exec (access.writeMapping tag image).run).1
        (scope.exec (access.writeMapping tag image).run).2.cancelled :=
  scope.exec_call_called .registry (access.mappingRequest tag image)

theorem provision_called : ∃ calls answer,
    (scope.exec access.provision.run).2.journal = scope.journal ++ calls ∧
      Called .user access.creationRequest (scope.reply .user access.creationRequest)
        scope.cancelled calls answer (scope.exec access.provision.run).2.cancelled ∧
      access.provisionedBy answer = (scope.exec access.provision.run).1 := by
  obtain ⟨calls, written, creation⟩ := scope.exec_call_called .user access.creationRequest
  rw [exec_provision]
  exact ⟨calls, _, written, creation, rfl⟩

theorem createMapping_course : ∃ calls,
    (scope.exec (access.createMapping tag image).run).2.journal = scope.journal ++ calls ∧
      Course access tag image (scope.reply .registry (access.mappingRequest tag image))
        scope.cancelled calls (scope.exec (access.createMapping tag image).run).1 := by
  rw [exec_createMapping]
  have attempt := access.writeMapping_called tag image scope
  cases met : scope.exec (access.writeMapping tag image).run with
  | mk result middle =>
    rw [met] at attempt
    obtain ⟨first, written, write⟩ := attempt
    cases result with
    | ok value => exact ⟨first, written, .recorded write⟩
    | error cause =>
      dsimp only at written write ⊢
      cases final : access.isFinal cause with
      | true => exact ⟨first, written, .refused write final⟩
      | false =>
        rw [if_neg Bool.false_ne_true]
        -- From here on the journal of the first attempt is carried along.
        obtain ⟨second, answer, created, creation, provisioned⟩ := access.provision_called middle
        have called : middle.journal ++ second = scope.journal ++ (first ++ second) := by
          rw [written, List.append_assoc]
        cases outcome : middle.exec access.provision.run with
        | mk result late =>
          rw [outcome] at created creation provisioned
          cases result with
          | error failure =>
            exact ⟨first ++ second, created.trans called,
              .unprovisioned write final creation provisioned⟩
          | ok stream =>
            obtain ⟨third, rewritten, again⟩ := access.writeMapping_called tag image
              (late.caching fun cache => { cache with stream := some stream })
            refine ⟨first ++ (second ++ third), rewritten.trans ?_,
              .retried write final creation provisioned again⟩
            change late.journal ++ third = _
            rw [created, called, List.append_assoc, List.append_assoc]

end Exec

namespace Course

variable {access : StreamAccess} {tag : String} {image : Image} {reply : Reply Unit}
  {cancelled : Bool} {calls : List Exchange} {result : Except Failure Unit}

theorem calls_eq_nil_iff (course : Course access tag image reply cancelled calls result) :
    calls = [] ↔ cancelled = true := by
  cases course with
  | recorded write => exact write.calls_eq_nil_iff
  | refused write final => exact write.calls_eq_nil_iff
  | unprovisioned write missing creation failed =>
    obtain ⟨live, rfl, -⟩ := write.started_of_ne (access.ne_cancelled_of_missing missing)
    simp [live]
  | retried write missing creation provisioned again =>
    obtain ⟨live, rfl, -⟩ := write.started_of_ne (access.ne_cancelled_of_missing missing)
    simp [live]

/-- The calls come in one order, and each of them at most once. -/
theorem call_prefix (course : Course access tag image reply cancelled calls result) :
    calls.map Exchange.call <+: [(.registry, access.mappingRequest tag image),
      (.user, access.creationRequest), (.registry, access.mappingRequest tag image)] := by
  cases course with
  | recorded write => exact write.call_prefix.trans ⟨_, rfl⟩
  | refused write final => exact write.call_prefix.trans ⟨_, rfl⟩
  | unprovisioned write missing creation failed =>
    obtain ⟨-, rfl, -⟩ := write.started_of_ne (access.ne_cancelled_of_missing missing)
    rw [List.map_append]
    exact (List.prefix_append_right_inj _).mpr (creation.call_prefix.trans ⟨_, rfl⟩)
  | retried write missing creation provisioned again =>
    obtain ⟨-, rfl, -⟩ := write.started_of_ne (access.ne_cancelled_of_missing missing)
    obtain ⟨-, rfl, -⟩ :=
      creation.started_of_ne (access.ne_cancelled_of_provisioned provisioned)
    rw [List.map_append, List.map_append]
    exact (List.prefix_append_right_inj _).mpr
      ((List.prefix_append_right_inj _).mpr again.call_prefix)

/-- The mapping is written again only when the stream is there. -/
theorem provisioned_of_again {first creation again : Exchange}
    (course : Course access tag image reply cancelled [first, creation, again] result) :
    creation.provisioned?.isSome = true := by
  generalize three : [first, creation, again] = calls at course
  -- Each call is made at most once, so only the course with the retry is long enough.
  have long := congrArg List.length three
  cases course with
  | recorded write =>
    have short := write.length_le
    simp only [List.length_cons, List.length_nil] at long
    omega
  | refused write final =>
    have short := write.length_le
    simp only [List.length_cons, List.length_nil] at long
    omega
  | unprovisioned write missing creation failed =>
    have short := write.length_le
    have shortened := creation.length_le
    simp only [List.length_cons, List.length_nil, List.length_append] at long
    omega
  | @retried first second third middle late after cause met answer stream last result
      write missing creation provisioned again =>
    obtain ⟨-, rfl, -⟩ := write.started_of_ne (access.ne_cancelled_of_missing missing)
    obtain ⟨-, rfl, rfl⟩ :=
      creation.started_of_ne (access.ne_cancelled_of_provisioned provisioned)
    obtain ⟨-, rfl, -⟩ := three
    have created := access.toOption_provisionedBy (Scope.received met)
    rw [provisioned] at created
    exact Option.isSome_iff_exists.mpr ⟨_, created.symm⟩

/-- The stream is created exactly if the first attempt has failed, but not for good. -/
theorem creates_iff {cause : ApiError}
    (course : Course access tag image (.completed (.error cause) false) false calls result) :
    (∃ exchange ∈ calls, exchange.call = (.user, access.creationRequest)) ↔
      access.isFinal cause = false := by
  cases course with
  | recorded write =>
    obtain ⟨-, -, met⟩ := write.started_of_ne nofun
    cases met
  | refused write final =>
    cases write
    have settled : access.isFinal cause ≠ false := by simpa using final
    exact iff_of_false (by simp [Exchange.call]) settled
  | unprovisioned write missing creation failed =>
    cases write
    rw [creation.calls_of_live]
    exact iff_of_true (by simp [Exchange.call]) missing
  | retried write missing creation provisioned again =>
    cases write
    rw [creation.calls_of_live]
    exact iff_of_true (by simp [Exchange.call]) missing

theorem any_accepts_eq (course : Course access tag image reply cancelled calls result) :
    calls.any Exchange.acceptsMapping = result.isOk := by
  cases course with
  | recorded write => exact write.any_accepts_eq
  | refused write final => exact write.any_accepts_eq
  | unprovisioned write missing creation failed =>
    rw [List.any_append, write.any_accepts_eq, creation.any_accepts_eq_false]
    rfl
  | @retried first second third middle late after cause met answer stream last result
      write missing creation provisioned again =>
    rw [List.any_append, List.any_append, write.any_accepts_eq, creation.any_accepts_eq_false,
      again.any_accepts_eq]
    cases result <;> rfl

theorem ok_iff_accepted (course : Course access tag image reply cancelled calls result) :
    result = .ok () ↔ ∃ exchange ∈ calls, exchange.acceptsMapping = true := by
  rw [← List.any_eq_true, course.any_accepts_eq]
  cases result with
  | ok value => exact iff_of_true rfl rfl
  | error failure => exact iff_of_false nofun nofun

/-- Nothing follows an accepted mapping. -/
theorem accepted_last (course : Course access tag image reply cancelled calls result) :
    calls.Pairwise fun earlier _ => earlier.acceptsMapping = false := by
  have ordered {first rest : List Exchange} (none : first.any Exchange.acceptsMapping = false) :
      ∀ earlier ∈ first, ∀ later ∈ rest, earlier.acceptsMapping = false :=
    fun earlier member _ _ => Bool.eq_false_iff.mpr (List.any_eq_false.mp none earlier member)
  cases course with
  | recorded write => exact write.pairwise _
  | refused write final => exact write.pairwise _
  | unprovisioned write missing creation failed =>
    exact List.pairwise_append.mpr
      ⟨write.pairwise _, creation.pairwise _, ordered write.any_accepts_eq⟩
  | retried write missing creation provisioned again =>
    have retry := List.pairwise_append.mpr
      ⟨creation.pairwise _, again.pairwise _, ordered creation.any_accepts_eq_false⟩
    exact List.pairwise_append.mpr ⟨write.pairwise _, retry, ordered write.any_accepts_eq⟩

end Course

/-- Whatever the clients answer, and wherever the request is cancelled, recording an image comes to
a first part of three calls: a mapping, the creation of the stream on behalf of the user, and the
same mapping again, which is tried only if the stream was created or is there already. It succeeds
exactly if a mapping was accepted, and no call follows that. -/
theorem createMapping_ok_iff_last_call_accepts {σ : Type} [ControlPlane σ]
    (access : StreamAccess) (tag : String) (image : Image) (scope : Scope σ) :
    let write : Client × Request := (.registry, .createMapping {
      metadata := { project := access.project, name := access.name }, image, tag })
    let create : Client × Request :=
      (.user, .createStream (.named access.project access.name))
    let (result, after) := scope.exec (access.createMapping tag image).run
    ∃ calls, after.journal = scope.journal ++ calls ∧
      (calls = [] ↔ scope.cancelled = true) ∧
      calls.map Exchange.call <+: [write, create, write] ∧
      (∀ first creation again, calls = [first, creation, again] →
        creation.provisioned?.isSome = true) ∧
      (result = .ok () ↔ ∃ exchange ∈ calls, exchange.acceptsMapping = true) ∧
      calls.Pairwise fun earlier _ => earlier.acceptsMapping = false := by
  intro write create
  obtain ⟨calls, written, course⟩ := access.createMapping_course tag image scope
  refine ⟨calls, written, course.calls_eq_nil_iff, course.call_prefix, ?_,
    course.ok_iff_accepted, course.accepted_last⟩
  rintro first creation again rfl
  exact course.provisioned_of_again

end StreamAccess

end ContainerStreams
