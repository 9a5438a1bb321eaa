import ContainerStreams.ControlPlane.Request
import ContainerStreams.Notice

/-!
The scope of one request to the registry: what it has fetched, whether it is cancelled, and the
calls it has started. No call is started once the request is cancelled, and every attempt then
fails as cancelled.
-/

set_option autoImplicit false

namespace ContainerStreams

/-- What has been fetched for a request. Failures are not kept, so a fetch may be tried again. -/
structure Cache where
  stream : Option ImageStream := none
  layers : Option StreamLayers := none
  images : SortedMap Image := {}
  deriving DecidableEq

/-- A call that was started, and what it met. -/
structure Exchange where
  client : Client
  request : Request
  reply : Reply request.Answer

/-- The journal and the notices are in the order in which they were written. -/
structure Scope (σ : Type) where
  plane : σ
  cancelled : Bool := false
  cache : Cache := {}
  journal : List Exchange := []
  notices : List Notice := []

/-- A step of an operation, which may fail with an `ε`. What it did to the scope stays done. -/
abbrev Action (σ ε α : Type) := ExceptT ε (StateM (Scope σ)) α

namespace Scope

variable {σ : Type}

def received {α : Type} : Reply α → Except ApiError α
  | .completed result _ => result
  | .abandoned => .error .cancelled

def cancelledBy {α : Type} : Reply α → Bool
  | .completed _ cancelled => cancelled
  | .abandoned => true

/-- Starts a call, unless the request is cancelled. -/
def call [ControlPlane σ] (client : Client) (request : Request) :
    Action σ ApiError request.Answer :=
  ExceptT.mk fun scope =>
    if scope.cancelled then (.error .cancelled, scope)
    else
      let (reply, plane) := ControlPlane.respond client request scope.plane
      (received reply, { scope with
        plane
        cancelled := cancelledBy reply
        journal := scope.journal ++ [⟨client, request, reply⟩] })

theorem call_of_cancelled [ControlPlane σ] (client : Client) (request : Request) (scope : Scope σ)
    (cancelled : scope.cancelled = true) :
    (call client request).run.run scope = (.error .cancelled, scope) := by
  change (if scope.cancelled = true then _ else _) = _
  rw [if_pos cancelled]

theorem call_of_live [ControlPlane σ] (client : Client) (request : Request) (scope : Scope σ)
    (live : scope.cancelled = false) :
    (call client request).run.run scope =
      let (reply, plane) := ControlPlane.respond client request scope.plane
      (received reply, { scope with
        plane
        cancelled := cancelledBy reply
        journal := scope.journal ++ [⟨client, request, reply⟩] }) := by
  change (if scope.cancelled = true then _ else _) = _
  rw [if_neg (by simp [live])]
  rfl

def caching (change : Cache → Cache) (scope : Scope σ) : Scope σ :=
  { scope with cache := change scope.cache }

def noting (notices : List Notice) (scope : Scope σ) : Scope σ :=
  { scope with notices := scope.notices ++ notices }

end Scope

end ContainerStreams
