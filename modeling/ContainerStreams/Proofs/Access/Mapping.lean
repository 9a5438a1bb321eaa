import ContainerStreams.Access.Mapping
import ContainerStreams.Proofs.ControlPlane.Steps

set_option autoImplicit false

namespace ContainerStreams

def Request.isWrite : Request → Bool
  | .createMapping _ => true
  | .createStream _ => true
  | _ => false

namespace StreamAccess

variable {σ : Type} [ControlPlane σ] (access : StreamAccess) (tag : String) (image : Image)

/-- The stream that is sent when there is none yet. -/
def freshStream : ImageStream := ImageStream.named access.project access.name

/-- What the answer to the creation of the stream is taken for. -/
def provisionedBy : Except ApiError ImageStream → Except Failure ImageStream
  | .ok created => .ok created
  | .error cause =>
    if cause.isAlreadyExists || cause.isConflict then .ok access.freshStream
    else .error (.provisioningFailed cause)

theorem toOption_provisionedBy (result : Except ApiError ImageStream) :
    (access.provisionedBy result).toOption = Exchange.createdStream? access.freshStream result := by
  cases result with
  | ok created => rfl
  | error cause =>
    simp only [provisionedBy, Exchange.createdStream?]
    split <;> rfl

theorem exec_provision (scope : Scope σ) :
    let called := scope.exec (Scope.call .user (.createStream access.freshStream)).run
    scope.exec access.provision.run = (access.provisionedBy called.1, called.2) := by
  unfold provision freshStream
  refine (Scope.exec_bind ..).trans ?_
  cases scope.exec
    (Scope.call .user (.createStream (ImageStream.named access.project access.name))).run with
  | mk result after =>
    cases result with
    | ok created => rfl
    | error cause =>
      dsimp only [provisionedBy]
      split <;> rfl

theorem exec_createMapping (scope : Scope σ) :
    scope.exec (access.createMapping tag image).run =
      match scope.exec (access.writeMapping tag image).run with
      | (.ok _, after) => (.ok (), after)
      | (.error cause, after) =>
        if access.isFinal cause then (.error (.mappingFailed .first cause), after)
        else
          match after.exec access.provision.run with
          | (.error failure, after) => (.error failure, after)
          | (.ok stream, after) =>
            (after.caching fun cache => { cache with stream := some stream }).exec
              ((access.writeMapping tag image).adapt (Failure.mappingFailed .second)).run := by
  unfold createMapping
  refine (Scope.exec_bind ..).trans ?_
  cases scope.exec (access.writeMapping tag image).run with
  | mk result after =>
    cases result with
    | ok created => rfl
    | error cause =>
      dsimp only
      split
      · rfl
      · refine (Scope.exec_run_bind ..).trans ?_
        cases after.exec access.provision.run with
        | mk result after => cases result <;> rfl

theorem writeMapping_evolves (scope : Scope σ) :
    scope.Evolves Request.isWrite (scope.exec (access.writeMapping tag image).run).2 := by
  exact scope.call_evolves .registry (.createMapping (access.mapping tag image)) rfl rfl
    rfl

/-- A provisioned stream is kept right away. -/
theorem provision_evolves (scope : Scope σ) :
    match scope.exec access.provision.run with
    | (.ok stream, after) =>
      scope.Evolves Request.isWrite
        (after.caching fun cache => { cache with stream := some stream })
    | (.error _, after) => scope.Evolves Request.isWrite after := by
  rw [exec_provision, Scope.exec_call]
  by_cases cancelled : scope.cancelled = true
  · rw [if_pos cancelled]
    exact .refl
  · rw [if_neg cancelled]
    have step := @Scope.Step.leaving σ _ Request.isWrite scope .user
      (.createStream access.freshStream) rfl cancelled rfl
    have kept := scope.cache.after_createStream .user access.freshStream
      (scope.reply .user (.createStream access.freshStream))
    have seen := access.toOption_provisionedBy
      (Scope.received (scope.reply .user (.createStream access.freshStream)))
    cases outcome : access.provisionedBy
      (Scope.received (scope.reply .user (.createStream access.freshStream))) with
    | ok stream =>
      rw [outcome] at seen
      exact .single (step _ (kept.trans (congrArg (Option.elim · _ _) seen.symm)))
    | error failure =>
      rw [outcome] at seen
      exact .single (step _ (kept.trans (congrArg (Option.elim · _ _) seen.symm)))

theorem createMapping_evolves (scope : Scope σ) :
    scope.Evolves Request.isWrite (scope.exec (access.createMapping tag image).run).2 := by
  rw [exec_createMapping]
  have first := access.writeMapping_evolves tag image scope
  cases met : scope.exec (access.writeMapping tag image).run with
  | mk result after =>
    rw [met] at first
    cases result with
    | ok _ => exact first
    | error cause =>
      dsimp only
      split
      · exact first
      · have provisioned := access.provision_evolves after
        cases outcome : after.exec access.provision.run with
        | mk result middle =>
          rw [outcome] at provisioned
          cases result with
          | error failure => exact first.trans provisioned
          | ok stream =>
            exact first.trans (provisioned.trans (access.writeMapping_evolves tag image _))

end StreamAccess

end ContainerStreams
