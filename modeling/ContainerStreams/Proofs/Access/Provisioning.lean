import ContainerStreams.ControlPlane.Scripted
import ContainerStreams.Proofs.Access.Course

set_option autoImplicit false

namespace ContainerStreams.StreamAccess

def Concerns (access : StreamAccess) (cause : ApiError) : Prop :=
  cause.detailsKind? = some "imagestreammappings" ∧ cause.detailsName? = some access.name

theorem not_isMissingProject_of_concerns {access : StreamAccess} {cause : ApiError}
    (concerns : access.Concerns cause) : Failure.isMissingProject cause = false := by
  have otherKind : "imagestreammappings".toLower ≠ "namespaces" := by decide +kernel
  simp [Failure.isMissingProject, concerns.1, otherKind]

theorem isMissingStream_iff (access : StreamAccess) (cause : ApiError) :
    access.isMissingStream cause = true ↔ cause.status = .notFound ∧ access.Concerns cause := by
  simp [isMissingStream, Concerns, and_assoc]

/-- The stream is taken to be missing when the status says so and no quota was exceeded. -/
theorem isFinal_eq_false_iff (access : StreamAccess) (cause : ApiError) :
    access.isFinal cause = false ↔
      cause.status = .notFound ∧ access.Concerns cause ∧ cause.isQuotaExceeded = false := by
  rw [isFinal, Bool.or_eq_false_iff, Bool.or_eq_false_iff, Bool.not_eq_false', isMissingStream_iff]
  constructor
  · rintro ⟨⟨unlimited, -⟩, status, concerns⟩
    exact ⟨status, concerns, unlimited⟩
  · rintro ⟨status, concerns, unlimited⟩
    exact ⟨⟨unlimited, not_isMissingProject_of_concerns concerns⟩, status, concerns⟩

section Attempt

variable {σ : Type} [ControlPlane σ] (access : StreamAccess) (tag : String) (image : Image)
  (scope : Scope σ) (cause : ApiError)

theorem creates_iff_of_failed (live : scope.cancelled = false)
    (failed : scope.reply .registry (access.mappingRequest tag image) =
      .completed (.error cause) false) :
    ∃ calls,
      (scope.exec (access.createMapping tag image).run).2.journal = scope.journal ++ calls ∧
      ((∃ exchange ∈ calls, exchange.call = (.user, access.creationRequest)) ↔
        cause.status = .notFound ∧ access.Concerns cause ∧ cause.isQuotaExceeded = false) := by
  obtain ⟨calls, written, course⟩ := access.createMapping_course tag image scope
  rw [failed, live] at course
  exact ⟨calls, written, course.creates_iff.trans (access.isFinal_eq_false_iff cause)⟩

/-- If the first attempt fails and the request is not cancelled by then, the stream is created
exactly if the status of the failure says that it is missing, the failure is about the stream's
mapping and no quota was exceeded. That is to go by the reason of the failure instead of its status
exactly if the two agree, as far as the failure is about the stream's mapping. -/
theorem createMapping_provisions_iff (live : scope.cancelled = false)
    (failed : scope.reply .registry (access.mappingRequest tag image) =
      .completed (.error cause) false) :
    ∃ calls,
      (scope.exec (access.createMapping tag image).run).2.journal = scope.journal ++ calls ∧
      let provisions := ∃ exchange ∈ calls,
        exchange.call = (.user, .createStream (.named access.project access.name))
      (provisions ↔
        cause.status = .notFound ∧ access.Concerns cause ∧ cause.isQuotaExceeded = false) ∧
      ((provisions ↔ cause.isNotFound = true ∧ access.Concerns cause) ↔
        (access.Concerns cause →
          (cause.status = .notFound ∧ cause.isQuotaExceeded = false ↔
            cause.isNotFound = true))) := by
  obtain ⟨calls, written, creates⟩ :=
    creates_iff_of_failed access tag image scope cause live failed
  refine ⟨calls, written, creates, ?_⟩
  change ((∃ exchange ∈ calls, exchange.call = (.user, access.creationRequest)) ↔ _) ↔ _
  rw [creates]
  by_cases concerns : access.Concerns cause <;> simp [concerns]

end Attempt

def app : StreamAccess := { project := "ns", name := "app" }

def mappingFailure (status : StatusCode) (reason : StatusReason) : ApiError :=
  { status, reason, message := ""
    details := some { kind := "imagestreammappings", name := "app" } }

/-- A request whose first mapping meets the failure, and all else succeeds. -/
def failingFirst (cause : ApiError) : Scope Scripted :=
  { plane := { registry := { mappingResults := [some cause] } } }

theorem missing_stream_is_created :
    let cause := mappingFailure .notFound .notFound
    let scope := failingFirst cause
    scope.cancelled = false ∧
      scope.reply .registry (app.mappingRequest "latest" {}) = .completed (.error cause) false ∧
      ∃ calls, (scope.exec (app.createMapping "latest" {}).run).2.journal = scope.journal ++ calls ∧
        ∃ exchange ∈ calls, exchange.call = (.user, .createStream (.named "ns" "app")) := by
  intro cause scope
  obtain ⟨calls, written, creates, -⟩ :=
    createMapping_provisions_iff app "latest" {} scope cause rfl rfl
  exact ⟨rfl, rfl, calls, written, creates.mpr ⟨rfl, ⟨rfl, rfl⟩, rfl⟩⟩

/-- A failure may be forbidden by its reason and not found by its status, or the other way round,
since a response body gives the two apart. The status is what counts. -/
theorem status_decides_creation :
    let body (code : Int) (reason : String) : Json := .object [("code", .ofInt code),
      ("reason", .string reason), ("details", .object [("kind", .string "imagestreammappings"),
      ("name", .string "app")])]
    let creates (cause : ApiError) : Prop :=
      ∃ exchange ∈ ((failingFirst cause).exec (app.createMapping "latest" {}).run).2.journal,
        exchange.call = (.user, .createStream (.named "ns" "app"))
    let forbidden := mappingFailure .notFound .forbidden
    let absent := mappingFailure .internalError .notFound
    ApiError.ofJson? (body 404 "Forbidden") = some forbidden ∧
      ApiError.ofJson? (body 500 "NotFound") = some absent ∧
      ¬ (creates forbidden ↔ forbidden.isNotFound = true ∧ app.Concerns forbidden) ∧
      ¬ (creates absent ↔ absent.isNotFound = true ∧ app.Concerns absent) := by
  intro body creates forbidden absent
  have creates_iff (cause : ApiError) : creates cause ↔
      cause.status = .notFound ∧ app.Concerns cause ∧ cause.isQuotaExceeded = false := by
    obtain ⟨calls, written, created⟩ :=
      creates_iff_of_failed app "latest" {} (failingFirst cause) cause rfl rfl
    change (∃ exchange ∈ ((failingFirst cause).exec (app.createMapping "latest" {}).run).2.journal,
      exchange.call = (.user, app.creationRequest)) ↔ _
    rw [written]
    exact created
  refine ⟨rfl, rfl, ?_, ?_⟩
  · rw [creates_iff]
    exact fun agrees => absurd (agrees.mp ⟨rfl, ⟨rfl, rfl⟩, rfl⟩).1 (by decide)
  · rw [creates_iff]
    exact fun agrees => absurd (agrees.mpr ⟨rfl, rfl, rfl⟩).1 (by decide)

end ContainerStreams.StreamAccess
