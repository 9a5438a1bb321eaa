import ContainerStreams.ControlPlane.Scripted
import ContainerStreams.Proofs.Access.Mapping
import ContainerStreams.Proofs.Access.Reading

set_option autoImplicit false

namespace ContainerStreams

inductive Read where
  | streamExists
  | tags
  | hasBlob (digest : ContentDigest)
  | resolveImageId (digest : ContentDigest)
  | storedImage (digest : ContentDigest)
  | resolve (digest : ContentDigest)
  | tagIsInsecure (tag : Option String) (digest : ContentDigest)
  | localRegistry
  | candidates (primary : Bool)
  deriving DecidableEq

namespace Read

abbrev Answer : Read → Type
  | .streamExists => Except Failure Bool
  | .tags => Except Failure (SortedMap ContentDigest)
  | .hasBlob _ => Bool × Option StreamLayers
  | .resolveImageId _ => Except Failure TagEvent
  | .storedImage _ => Except Failure (Image × TagEvent)
  | .resolve _ => Except Failure DisplayImage
  | .tagIsInsecure _ _ => Except Failure Bool
  | .localRegistry => Except Failure LocalRegistry
  | .candidates _ => Except Failure Pullthrough.Candidates

section Perform

variable {σ : Type} [ControlPlane σ] (access : StreamAccess)

def perform : (read : Read) → StateM (Scope σ) read.Answer
  | .streamExists => access.streamExists.run
  | .tags => access.tags.run
  | .hasBlob digest => access.hasBlob digest
  | .resolveImageId digest => (access.resolveImageId digest).run
  | .storedImage digest => (access.storedImage digest).run
  | .resolve digest => (access.resolve digest).run
  | .tagIsInsecure tag digest => (access.tagIsInsecure tag digest).run
  | .localRegistry => access.localRegistry.run
  | .candidates primary => (access.candidates primary).run

end Perform

/-- The answer as it follows from the sources alone. -/
def answerFrom (access : StreamAccess) (first second : Sources) : (read : Read) → read.Answer
  | .streamExists => Sources.existence first.stream
  | .tags => (first.streamFor .tags).map ImageStream.currentTags
  | .hasBlob digest => Sources.blob digest first.layers
  | .resolveImageId digest => first.eventOf digest.text
  | .storedImage digest => first.storedImage digest
  | .resolve digest => first.shownImage second access.defaults digest
  | .tagIsInsecure tag digest =>
    (first.streamFor .tagIsInsecure).map (·.allowsInsecure tag digest)
  | .localRegistry =>
    (first.streamFor .localRegistry).map (LocalRegistry.ofStream · access.aliases)
  | .candidates primary => (first.streamFor .candidates).map fun stream =>
    Pullthrough.candidates stream (LocalRegistry.ofStream stream access.aliases) primary
      access.defaults

theorem answersTwice {σ : Type} [ControlPlane σ] (access : StreamAccess) (read : Read) :
    AnswersTwice (σ := σ) (read.perform access)
      fun first second => read.answerFrom access first second := by
  cases read with
  | streamExists => exact (Answers.streamExists access).twice
  | tags => exact (Answers.tags access).twice
  | hasBlob digest => exact (Answers.hasBlob access digest).twice
  | resolveImageId digest => exact (Answers.eventOf access digest.text).twice
  | storedImage digest => exact (Answers.storedImage access digest).twice
  | resolve digest => exact AnswersTwice.resolve access digest
  | tagIsInsecure tag digest => exact (Answers.tagIsInsecure access tag digest).twice
  | localRegistry => exact (Answers.localRegistry access).twice
  | candidates primary => exact (Answers.candidates access primary).twice

end Read

inductive Operation where
  | read (question : Read)
  | createMapping (tag : String) (image : Image)
  deriving DecidableEq

/-- An operation, and whether its request to the registry is cancelled before it starts. -/
structure Turn where
  operation : Operation
  cancelled : Bool := false
  deriving DecidableEq

section Run

variable {σ : Type} [ControlPlane σ]

def Operation.after (access : StreamAccess) (scope : Scope σ) : Operation → Scope σ
  | .read question => (scope.exec (question.perform access)).2
  | .createMapping tag image => (scope.exec (access.createMapping tag image).run).2

def StreamAccess.turn (access : StreamAccess) (scope : Scope σ) (turn : Turn) : Scope σ :=
  turn.operation.after access { scope with cancelled := turn.cancelled }

def StreamAccess.run (access : StreamAccess) (plane : σ) (turns : List Turn) : Scope σ :=
  turns.foldl access.turn { plane }

theorem Operation.evolves (access : StreamAccess) (scope : Scope σ) (operation : Operation) :
    scope.Evolves (fun _ => true) (operation.after access scope) := by
  cases operation with
  | read question =>
    obtain ⟨first, middle, second, early, late, -⟩ := question.answersTwice access scope
    exact Scope.Evolves.mono (early.evolves.trans late.evolves) fun _ _ => rfl
  | createMapping tag image =>
    exact (access.createMapping_evolves tag image scope).mono fun _ _ => rfl

namespace StreamAccess

variable (access : StreamAccess)

theorem turn_accounted (scope : Scope σ) (turn : Turn) (accounted : scope.Accounted) :
    (access.turn scope turn).Accounted :=
  (turn.operation.evolves access _).accounted ⟨accounted.records, accounted.once⟩

theorem foldl_turn_accounted (scope : Scope σ) (turns : List Turn) (accounted : scope.Accounted) :
    (turns.foldl access.turn scope).Accounted := by
  -- The scope varies, since each turn starts from what the turns before it have left.
  induction turns generalizing scope with
  | nil => exact accounted
  | cons turn rest ih =>
    apply ih
    exact access.turn_accounted scope turn accounted

theorem run_accounted (plane : σ) (turns : List Turn) : (access.run plane turns).Accounted :=
  access.foldl_turn_accounted _ turns ⟨.empty, .nil⟩

/-- Whatever the control plane answers and whichever requests are cancelled, no fetch is made that
succeeded before, and the stream is not fetched once it was provisioned. The cache holds the stream
provisioned last, or else the one fetched first, and the layers and the images fetched first. A
fetch that fails changes nothing, and any further question is answered from what is cached. -/
theorem fetches_nothing_twice (plane : σ) (turns : List Turn) :
    let scope := access.run plane turns
    (scope.journal.Pairwise fun earlier later => earlier.supplies later.request = false) ∧
      scope.cache.Records scope.journal ∧
      UnchangedOnFailure (σ := σ) access.fetchStream.run ∧
      UnchangedOnFailure (σ := σ) access.fetchLayers.run ∧
      (∀ digest, UnchangedOnFailure (σ := σ) (fetchImage digest).run) ∧
      ∀ (question : Read) (cancelled : Bool),
        let (answer, after) := ({ scope with cancelled } : Scope σ).exec (question.perform access)
        ∃ first second, Sources.ofCache scope.cache ≤ first ∧ first ≤ second ∧
          second ≤ Sources.ofCache after.cache ∧
          answer = question.answerFrom access first second := by
  intro scope
  have accounted := access.run_accounted plane turns
  refine ⟨accounted.once, accounted.records, access.fetches_stream.unchangedOnFailure,
    access.fetches_layers.unchangedOnFailure, fun digest =>
    (fetches_image digest).unchangedOnFailure, fun question cancelled => ?_⟩
  obtain ⟨first, middle, second, early, late, answer⟩ :=
    question.answersTwice access { scope with cancelled }
  exact ⟨first, second, early.known, early.le late, late.kept, answer⟩

end StreamAccess

end Run

/-- The cancelled request starts no call, and of the following ones only the first does. -/
example :
    let access : StreamAccess := { project := "ns", name := "app" }
    let plane : Scripted := { registry := { streams := .ofList [("ns/app", {})] } }
    (access.run plane [
      { operation := .read .tags, cancelled := true }, { operation := .read .streamExists },
      { operation := .read .tags }, { operation := .read .localRegistry }]).journal.length = 1 := by
  rfl

end ContainerStreams
