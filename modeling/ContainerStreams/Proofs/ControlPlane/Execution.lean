import ContainerStreams.ControlPlane.Scope

set_option autoImplicit false

namespace ContainerStreams.Scope

variable {σ ε α β : Type}

def exec (scope : Scope σ) (program : StateM (Scope σ) α) : α × Scope σ :=
  program.run scope

theorem exec_bind (scope : Scope σ) (first : StateM (Scope σ) α) (next : α → StateM (Scope σ) β) :
    scope.exec (first >>= next) = (scope.exec first).2.exec (next (scope.exec first).1) := rfl

theorem exec_run_bind (scope : Scope σ) (first : Action σ ε α) (next : α → Action σ ε β) :
    scope.exec (first >>= next).run =
      match scope.exec first.run with
      | (.ok value, after) => after.exec (next value).run
      | (.error error, after) => (.error error, after) := by
  rw [ExceptT.run_bind, exec_bind]
  cases scope.exec first.run with
  | mk result after => cases result <;> rfl

theorem exec_run_adapt {ε' : Type} (scope : Scope σ) (action : Action σ ε α) (change : ε → ε') :
    scope.exec (action.adapt change).run =
      ((scope.exec action.run).1.mapError change, (scope.exec action.run).2) := rfl

section Call

variable [ControlPlane σ]

/-- What a call meets, if it is made now. -/
def reply (scope : Scope σ) (client : Client) (request : Request) : Reply request.Answer :=
  (ControlPlane.respond client request scope.plane).1

def exchange (scope : Scope σ) (client : Client) (request : Request) : Exchange :=
  ⟨client, request, scope.reply client request⟩

def afterCall (scope : Scope σ) (client : Client) (request : Request) : Scope σ :=
  { scope with
    plane := (ControlPlane.respond client request scope.plane).2
    cancelled := cancelledBy (scope.reply client request)
    journal := scope.journal ++ [scope.exchange client request] }

theorem exec_call (scope : Scope σ) (client : Client) (request : Request) :
    scope.exec (call client request).run =
      if scope.cancelled then (.error .cancelled, scope)
      else (received (scope.reply client request), scope.afterCall client request) := by
  split
  · rename_i cancelled
    exact call_of_cancelled client request scope cancelled
  · rename_i live
    exact call_of_live client request scope (Bool.eq_false_iff.mpr live)

/-- A call that is refused or abandoned fails as cancelled. -/
theorem exec_call_of_unanswered (scope : Scope σ) (client : Client) (request : Request)
    (unanswered : scope.cancelled = true ∨ scope.reply client request = .abandoned) :
    (scope.exec (call client request).run).1 = .error .cancelled := by
  rw [exec_call]
  split
  · rfl
  · rename_i live
    rw [unanswered.resolve_left live]
    rfl

end Call

end ContainerStreams.Scope
