import ContainerStreams.Proofs.Access.Provisioning
import ContainerStreams.Proofs.Access.Run
import ContainerStreams.Proofs.Pullthrough.Transport
import Mathlib.Data.List.Induction

set_option autoImplicit false

namespace ContainerStreams

namespace Exchange

/-- The stream that the control plane has returned, to a fetch or to a creation. -/
def returnedStream? : Exchange → Option ImageStream
  | ⟨_, .imageStream _ _, reply⟩ => (Scope.received reply).toOption
  | ⟨_, .createStream _, reply⟩ => (Scope.received reply).toOption
  | _ => none

/-- Whether another writer has created the stream before: it counts as provisioned, but no stream
has been returned. -/
def lostRace (exchange : Exchange) : Bool :=
  exchange.provisioned?.isSome && exchange.returnedStream?.isNone

theorem provisioned?_of_isFetch {exchange : Exchange}
    (fetch : exchange.request.isFetch = true) : exchange.provisioned? = none := by
  obtain ⟨client, request, reply⟩ := exchange
  cases request with
  | createStream sent => cases fetch
  | _ => rfl

theorem returnedStream?_of_fetched {exchange : Exchange} {stream : ImageStream}
    (fetched : exchange.fetchedStream? = some stream) :
    exchange.returnedStream? = some stream := by
  obtain ⟨client, request, reply⟩ := exchange
  cases request with
  | imageStream project name => exact fetched
  | _ => cases fetched

theorem returnedStream?_of_provisioned {exchange : Exchange} {stream : ImageStream}
    (provisioned : exchange.provisioned? = some stream) (won : exchange.lostRace = false) :
    exchange.returnedStream? = some stream := by
  obtain ⟨client, request, reply⟩ := exchange
  cases request with
  | createStream sent =>
    rw [lostRace, provisioned] at won
    change createdStream? sent (Scope.received reply) = some stream at provisioned
    change (Scope.received reply).toOption = some stream
    change (true && (Scope.received reply).toOption.isNone) = false at won
    cases answer : Scope.received reply with
    | ok created =>
      rw [answer] at provisioned
      exact provisioned
    | error cause =>
      rw [answer] at won
      cases won
  | _ => cases provisioned

/-- A lost race leaves the stream that was sent. -/
theorem provisioned?_of_lostRace {exchange : Exchange} (lost : exchange.lostRace = true) :
    ∃ sent, exchange.request = .createStream sent ∧ exchange.provisioned? = some sent := by
  obtain ⟨client, request, reply⟩ := exchange
  cases request with
  | createStream sent =>
    refine ⟨sent, rfl, ?_⟩
    change ((createdStream? sent (Scope.received reply)).isSome &&
      (Scope.received reply).toOption.isNone) = true at lost
    change createdStream? sent (Scope.received reply) = some sent
    cases answer : Scope.received reply with
    | ok created =>
      rw [answer] at lost
      cases lost
    | error cause =>
      rw [answer] at lost
      by_cases present : (cause.isAlreadyExists || cause.isConflict) = true
      · exact if_pos present
      · simp [createdStream?, present] at lost
  | _ => cases lost

end Exchange

/-- Whether the stream provisioned last was there before, by another writer. -/
def lostLast (journal : List Exchange) : Bool :=
  journal.foldl (fun lost exchange =>
    if exchange.provisioned?.isSome then exchange.lostRace else lost) false

theorem lostLast_concat (journal : List Exchange) (exchange : Exchange) :
    lostLast (journal ++ [exchange]) =
      if exchange.provisioned?.isSome then exchange.lostRace else lostLast journal := by
  rw [lostLast, List.foldl_append]
  rfl

def Returned (journal : List Exchange) (stream : ImageStream) : Prop :=
  ∃ exchange ∈ journal, exchange.returnedStream? = some stream

theorem Returned.concat {journal : List Exchange} {stream : ImageStream}
    (returned : Returned journal stream) (exchange : Exchange) :
    Returned (journal ++ [exchange]) stream := by
  obtain ⟨earlier, member, answered⟩ := returned
  exact ⟨earlier, List.mem_append_left _ member, answered⟩

/-- Unless the last race was lost, the stream in force has been returned. -/
theorem returned_of_standing (journal : List Exchange) (stream : ImageStream)
    (standing : standingStream journal = some stream) (won : lostLast journal = false) :
    Returned journal stream := by
  -- A journal grows at its end. Whether a race was lost counts only until the next creation.
  induction journal using List.reverseRecOn with
  | nil => cases standing
  | append_singleton journal exchange ih =>
    rw [standingStream_concat] at standing
    rw [lostLast_concat] at won
    have last : exchange ∈ journal ++ [exchange] := List.mem_append_right _ (.head _)
    cases provisioned : exchange.provisioned? with
    | some created =>
      rw [provisioned, Option.isSome_some, if_pos rfl] at won
      have returned := Exchange.returnedStream?_of_provisioned provisioned won
      rw [provisioned, Option.some_or] at standing
      exact ⟨exchange, last, returned.trans standing⟩
    | none =>
      rw [provisioned, Option.isSome_none, if_neg Bool.false_ne_true] at won
      rw [provisioned, Option.none_or] at standing
      cases known : standingStream journal with
      | some before =>
        rw [known, Option.some_or] at standing
        exact (ih (known.trans standing) won).concat exchange
      | none =>
        rw [known, Option.none_or] at standing
        exact ⟨exchange, last, Exchange.returnedStream?_of_fetched standing⟩

/-- If the last race was lost, the stream in force is one that was sent. -/
theorem sent_of_lostLast (journal : List Exchange) (lost : lostLast journal = true) :
    ∃ exchange ∈ journal, ∃ sent, exchange.request = .createStream sent ∧
      standingStream journal = some sent := by
  induction journal using List.reverseRecOn with
  | nil => cases lost
  | append_singleton journal exchange ih =>
    rw [lostLast_concat] at lost
    rw [standingStream_concat]
    cases provisioned : exchange.provisioned? with
    | some created =>
      rw [provisioned, Option.isSome_some, if_pos rfl] at lost
      obtain ⟨sent, request, kept⟩ := Exchange.provisioned?_of_lostRace lost
      rw [provisioned] at kept
      exact ⟨exchange, List.mem_append_right _ (.head _), sent, request, by rw [kept]; rfl⟩
    | none =>
      rw [provisioned, Option.isSome_none, if_neg Bool.false_ne_true] at lost
      obtain ⟨race, member, sent, request, standing⟩ := ih lost
      exact ⟨race, List.mem_append_left _ member, sent, request, by rw [standing]; rfl⟩

/-- Whatever stream is created is the empty one of the name. -/
def StreamAccess.CreatesFresh (access : StreamAccess) (journal : List Exchange) : Prop :=
  ∀ exchange ∈ journal, ∀ sent, exchange.request = .createStream sent → sent = access.freshStream

section Run

variable {σ : Type} [ControlPlane σ] {access : StreamAccess} {before after : Scope σ}

/-- Fetching creates no stream. -/
theorem Scope.Evolves.lostLast_eq (evolves : before.Evolves Request.isFetch after) :
    lostLast after.journal = lostLast before.journal := by
  induction evolves with
  | refl => rfl
  | tail _ step ih =>
    cases step with
    | note notices => exact ih
    | call client request allowed live lacking =>
      refine (lostLast_concat _ _).trans ?_
      rw [Exchange.provisioned?_of_isFetch]
      · exact ih
      · exact allowed

theorem Scope.Evolves.createsFresh
    (evolves : before.Evolves (fun request => !request.isWrite) after) :
    ∃ calls, after.journal = before.journal ++ calls ∧ access.CreatesFresh calls := by
  obtain ⟨calls, written, unwriting⟩ := evolves.calls
  refine ⟨calls, written, ?_⟩
  intro exchange member sent creation
  have isRead := unwriting exchange member
  rw [creation] at isRead
  cases isRead

theorem Request.not_isWrite_of_isFetch (request : Request) (fetch : request.isFetch = true) :
    (!request.isWrite) = true := by
  cases request with
  | createMapping mapping => cases fetch
  | createStream sent => cases fetch
  | _ => rfl

namespace StreamAccess

variable (access : StreamAccess)

theorem createMapping_createsFresh (tag : String) (image : Image) (scope : Scope σ) :
    ∃ calls, (scope.exec (access.createMapping tag image).run).2.journal = scope.journal ++ calls ∧
      access.CreatesFresh calls := by
  obtain ⟨calls, written, course⟩ := access.createMapping_course tag image scope
  refine ⟨calls, written, ?_⟩
  intro exchange member sent creation
  have listed := course.call_prefix.subset (List.mem_map_of_mem member)
  simp only [Exchange.call, creation, List.mem_cons, Prod.mk.injEq, reduceCtorEq, and_false,
    Request.createStream.injEq, List.not_mem_nil, or_false, false_or] at listed
  exact listed.2

theorem operation_createsFresh (scope : Scope σ) (operation : Operation) :
    ∃ calls, (operation.after access scope).journal = scope.journal ++ calls ∧
      access.CreatesFresh calls := by
  cases operation with
  | read question =>
    obtain ⟨first, middle, second, early, late, -⟩ := question.answersTwice access scope
    have reads := Scope.Evolves.mono (early.evolves.trans late.evolves)
      Request.not_isWrite_of_isFetch
    exact Scope.Evolves.createsFresh reads
  | createMapping tag image => exact access.createMapping_createsFresh tag image scope

theorem turn_createsFresh (scope : Scope σ) (turn : Turn)
    (fresh : access.CreatesFresh scope.journal) :
    access.CreatesFresh (access.turn scope turn).journal := by
  obtain ⟨calls, written, added⟩ :=
    access.operation_createsFresh { scope with cancelled := turn.cancelled } turn.operation
  change access.CreatesFresh (turn.operation.after access _).journal
  rw [written]
  intro exchange member
  rcases List.mem_append.mp member with earlier | called
  · exact fresh exchange earlier
  · exact added exchange called

theorem run_createsFresh (plane : σ) (turns : List Turn) :
    access.CreatesFresh (access.run plane turns).journal := by
  have unstarted : access.CreatesFresh ([] : List Exchange) := List.forall_mem_nil _
  apply List.foldlRecOn (motive := fun scope : Scope σ => access.CreatesFresh scope.journal) turns
    access.turn unstarted
  intro scope fresh turn _
  exact access.turn_createsFresh scope turn fresh

theorem cached_of_lostLast (plane : σ) (turns : List Turn)
    (lost : lostLast (access.run plane turns).journal = true) :
    (access.run plane turns).cache.stream = some access.freshStream := by
  obtain ⟨race, member, sent, request, standing⟩ := sent_of_lostLast _ lost
  rw [(access.run_accounted plane turns).records.stream, standing,
    access.run_createsFresh plane turns race member sent request]

/-- In any run, what a question is answered from is a stream that the control plane has returned,
unless the last creation was lost to another writer. In that case it is the empty stream that was
sent, whether or not a stream had been fetched before. -/
theorem reads_returned_stream_iff (plane : σ) (turns : List Turn) (question : Read)
    (cancelled : Bool) :
    let scope : Scope σ := { access.run plane turns with cancelled }
    let (answer, after) := scope.exec (question.perform access)
    ∃ first second,
      answer = question.answerFrom access first second ∧
      Sources.ofCache scope.cache ≤ first ∧ first ≤ second ∧
      second ≤ Sources.ofCache after.cache ∧
      (lostLast scope.journal = true → first.stream = .ok access.freshStream) ∧
      ((∀ stream, second.stream = .ok stream → Returned after.journal stream) ↔
        (lostLast scope.journal = true → Returned after.journal access.freshStream)) := by
  intro scope
  obtain ⟨first, middle, second, early, late, answer⟩ := question.answersTwice access scope
  have run := access.run_accounted plane turns
  have evolves : scope.Evolves Request.isFetch (scope.exec (question.perform access)).2 :=
    early.evolves.trans late.evolves
  have records := (Scope.Evolves.accounted evolves ⟨run.records, run.once⟩).records
  have forged (lost : lostLast scope.journal = true) : first.stream = .ok access.freshStream :=
    early.known.stream _ ((Sources.stream_ofCache_iff _ _).mpr
      (access.cached_of_lostLast plane turns lost))
  refine ⟨first, second, answer, early.known, early.le late, late.kept, forged, ?_⟩
  constructor
  · intro returned lost
    exact returned _ ((early.le late).stream _ (forged lost))
  · intro raced stream consulted
    cases lost : lostLast scope.journal with
    | false =>
      have cached := (Sources.stream_ofCache_iff _ _).mp (late.kept.stream _ consulted)
      exact returned_of_standing _ stream (records.stream.symm.trans cached)
        (evolves.lostLast_eq.trans lost)
    | true =>
      have same := (early.le late).stream _ (forged lost)
      rw [consulted] at same
      cases same
      exact raced lost

end StreamAccess

end Run

def recordedStream : ImageStream where
  status := { tags := [{ tag := "v1", events := [{
    created := Pullthrough.newYear, pullReference := "quay.io/ns/app:v1"
    image := "sha256:aaaaaaaaaaaaaaaaaaaaaaaaaaaaaaaa" }] }] }

/-- The stream is there when it is fetched, seems to be missing when an image is mapped into it, and
is there again when it is to be created. -/
def racedPlane : Scripted where
  registry := {
    streams := .ofList [("ns/app", recordedStream)]
    mappingResults := [some (StreamAccess.mappingFailure .notFound .notFound)] }
  user := { createResults := [some (.error {
    status := .conflict, reason := .alreadyExists, message := "" })] }

/-- After the race is lost, the stream has no tags, although the control plane has never returned
one without. -/
theorem lost_race_forgets_history :
    let scope := StreamAccess.app.run racedPlane
      [{ operation := .read .tags }, { operation := .createMapping "v2" {} }]
    let answer := (scope.exec (Read.tags.perform .app)).1
    let journal := (scope.exec (Read.tags.perform .app)).2.journal
    ¬ ∃ first second, answer = Read.tags.answerFrom .app first second ∧ first ≤ second ∧
      ∀ stream, second.stream = .ok stream → Returned journal stream := by
  intro scope answer journal
  rintro ⟨first, second, same, within, returned⟩
  have shown : answer.toOption = some {} := by decide +kernel
  have all : journal.filterMap Exchange.returnedStream? = [recordedStream] := by decide +kernel
  rw [same] at shown
  change ((first.stream.mapError (Failure.streamUnavailable .tags)).map
    ImageStream.currentTags).toOption = some {} at shown
  cases found : first.stream with
  | error cause =>
    rw [found] at shown
    cases shown
  | ok stream =>
    rw [found] at shown
    obtain ⟨exchange, member, isReturned⟩ := returned stream (within.stream _ found)
    have listed := List.mem_filterMap.mpr ⟨exchange, member, isReturned⟩
    rw [all, List.mem_singleton] at listed
    rw [listed] at shown
    exact absurd shown (by decide +kernel)

end ContainerStreams
