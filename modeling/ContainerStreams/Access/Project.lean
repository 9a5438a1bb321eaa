import ContainerStreams.Access.Basic
import ContainerStreams.Store.Basic

set_option autoImplicit false

namespace ContainerStreams

class ObjectStore (τ : Type) (α : outParam Type) where
  get : String → τ → Option α × τ
  add : String → α → τ → Except StoreError Unit × τ

instance (α : Type) : ObjectStore (ProjectStore α) α where
  get project store := store.get project
  add project value store := (.ok (), store.add project value)

/-- A store for those who keep nothing. -/
structure NoStore (α : Type) where
  deriving DecidableEq

instance (α : Type) : ObjectStore (NoStore α) α where
  get _ store := (none, store)
  add _ _ store := (.ok (), store)

/-- A store that has nothing and takes nothing. -/
structure RefusingStore (α : Type) where
  reason : StoreError
  deriving DecidableEq

instance (α : Type) : ObjectStore (RefusingStore α) α where
  get _ store := (none, store)
  add _ _ store := (.error store.reason, store)

namespace StreamAccess

variable {σ : Type} [ControlPlane σ]

def secrets (access : StreamAccess) : Action σ Failure (List Secret) := do
  let list ← ExceptT.adapt Failure.secretsUnavailable
    (Scope.call (σ := σ) .registry (.secrets access.project access.name))
  return list.items

/-- The limit ranges of the stream's project. The store is asked first, and is given what had to
be listed; a refusal is noted and does no harm. -/
def limitRangeList {τ : Type} [ObjectStore τ LimitRangeList] (access : StreamAccess)
    (store : τ) : StateM (Scope σ) (Except Failure LimitRangeList × τ) := do
  match ObjectStore.get access.project store with
  | (some list, store) => return (.ok list, store)
  | (none, store) =>
    match ← (Scope.call (σ := σ) .registry (.limitRanges access.project)).run with
    | .error cause => return (.error (.limitRangesUnavailable cause), store)
    | .ok list =>
      let (added, store) := ObjectStore.add access.project list store
      match added with
      | .ok _ => return (.ok list, store)
      | .error cause =>
        modify (Scope.noting [.limitRangesNotStored cause])
        return (.ok list, store)

end StreamAccess

end ContainerStreams
