import ContainerStreams.Proofs.ControlPlane.Execution
import ContainerStreams.Proofs.ControlPlane.Journal
import Mathlib.Logic.Relation

/-!
What an operation may do to its scope, step by step: it notes something, or it makes a call for
what the cache lacks and keeps the answer. Whatever takes only such steps fetches nothing twice,
and its cache is determined by its journal.
-/

set_option autoImplicit false

namespace ContainerStreams.Scope

variable {σ : Type}

/-- Every fetch in the journal was needed, and the cache is what the journal leaves in force. -/
structure Accounted (scope : Scope σ) : Prop where
  records : scope.cache.Records scope.journal
  once : scope.journal.Pairwise fun earlier later => earlier.supplies later.request = false

variable [ControlPlane σ]

/-- One step: a note, or a permitted call that is made live and for something the cache lacks. What
the call fetches or creates is kept at once. -/
inductive Step (permitted : Request → Bool) : Scope σ → Scope σ → Prop
  | note (scope : Scope σ) (notices : List Notice) : Step permitted scope (scope.noting notices)
  | call (scope : Scope σ) (client : Client) (request : Request)
      (allowed : permitted request = true) (live : scope.cancelled = false)
      (lacking : scope.cache.holds request = false) :
      Step permitted scope ((scope.afterCall client request).caching
        (·.after (scope.exchange client request)))

theorem Step.mono {narrow wide : Request → Bool} {before after : Scope σ}
    (step : Step narrow before after)
    (widens : ∀ request, narrow request = true → wide request = true) : Step wide before after := by
  cases step with
  | note notices => exact .note _ notices
  | call client request allowed live lacking =>
    exact .call _ client request (widens request allowed) live lacking

theorem Step.accounted {permitted : Request → Bool} {before after : Scope σ}
    (step : Step permitted before after) (accounted : before.Accounted) : after.Accounted := by
  cases step with
  | note notices => exact ⟨accounted.records, accounted.once⟩
  | call client request allowed live lacking =>
    refine ⟨accounted.records.concat _ lacking, List.pairwise_append.mpr
      ⟨accounted.once, List.pairwise_singleton _ _, ?_⟩⟩
    intro earlier member later isLast
    rw [List.mem_singleton.mp isLast]
    rw [accounted.records.holds_eq] at lacking
    exact Bool.eq_false_iff.mpr (List.any_eq_false.mp lacking earlier member)

def Evolves (before : Scope σ) (permitted : Request → Bool) (after : Scope σ) : Prop :=
  Relation.ReflTransGen (Step permitted) before after

theorem Step.leaving {permitted : Request → Bool} (scope : Scope σ) (client : Client)
    (request : Request) (allowed : permitted request = true) (live : ¬scope.cancelled = true)
    (lacking : scope.cache.holds request = false) (cache : Cache)
    (kept : scope.cache.after (scope.exchange client request) = cache) :
    Step permitted scope { scope.afterCall client request with cache } := by
  rw [← kept]
  exact .call scope client request allowed (Bool.eq_false_iff.mpr live) lacking

/-- A call whose answer is not kept. -/
theorem call_evolves {permitted : Request → Bool} (scope : Scope σ) (client : Client)
    (request : Request) (allowed : permitted request = true)
    (lacking : scope.cache.holds request = false)
    (unkept : scope.cache.after (scope.exchange client request) = scope.cache) :
    scope.Evolves permitted (scope.exec (call client request).run).2 := by
  rw [exec_call]
  split
  · exact .refl
  · rename_i live
    exact .single (.leaving scope client request allowed live lacking _ unkept)

theorem Evolves.mono {narrow wide : Request → Bool} {before after : Scope σ}
    (evolves : before.Evolves narrow after)
    (widens : ∀ request, narrow request = true → wide request = true) : before.Evolves wide after :=
  Relation.ReflTransGen.mono (fun _ _ step => step.mono widens) _ _ evolves

theorem Evolves.accounted {permitted : Request → Bool} {before after : Scope σ}
    (evolves : before.Evolves permitted after) (accounted : before.Accounted) :
    after.Accounted := by
  induction evolves with
  | refl => exact accounted
  | tail _ step ih => exact step.accounted ih

/-- The calls that were made, all of them permitted. -/
theorem Evolves.calls {permitted : Request → Bool} {before after : Scope σ}
    (evolves : before.Evolves permitted after) : ∃ calls,
    after.journal = before.journal ++ calls ∧
      ∀ exchange ∈ calls, permitted exchange.request = true := by
  induction evolves with
  | refl => exact ⟨[], (List.append_nil _).symm, List.forall_mem_nil _⟩
  | @tail middle _ _ step ih =>
    obtain ⟨calls, written, allPermitted⟩ := ih
    cases step with
    | note notices => exact ⟨calls, written, allPermitted⟩
    | call client request allowed live lacking =>
      have last : middle.journal ++ [middle.exchange client request] =
          before.journal ++ (calls ++ [middle.exchange client request]) := by
        rw [written, List.append_assoc]
      refine ⟨calls ++ [middle.exchange client request], last, ?_⟩
      intro exchange member
      rcases List.mem_append.mp member with earlier | last
      · exact allPermitted exchange earlier
      · rw [List.mem_singleton.mp last]
        exact allowed

/-- A cancelled request does nothing more. -/
theorem Evolves.of_cancelled {permitted : Request → Bool} {before after : Scope σ}
    (evolves : before.Evolves permitted after) (cancelled : before.cancelled = true) :
    after.cancelled = true ∧ after.journal = before.journal ∧ after.cache = before.cache := by
  induction evolves with
  | refl => exact ⟨cancelled, rfl, rfl⟩
  | tail _ step ih =>
    cases step with
    | note notices => exact ih
    | call client request allowed live lacking =>
      rw [ih.1] at live
      cases live

/-- The cache changes by the answers of the calls alone. -/
theorem Evolves.cache_eq_foldl {permitted : Request → Bool} {before after : Scope σ}
    {calls : List Exchange} (evolves : before.Evolves permitted after)
    (written : after.journal = before.journal ++ calls) :
    after.cache = calls.foldl Cache.after before.cache := by
  induction evolves generalizing calls with
  | refl =>
    obtain rfl : calls = [] := List.self_eq_append_right.mp written
    rfl
  | @tail middle _ evolves step ih =>
    cases step with
    | note notices => exact ih written
    | call client request allowed live lacking =>
      obtain ⟨earlier, journal, -⟩ := Evolves.calls evolves
      change middle.journal ++ [middle.exchange client request] = _ at written
      rw [journal, List.append_assoc] at written
      rw [← List.append_cancel_left written, List.foldl_append, ← ih journal]
      rfl

/-- Each call of the journal was started by a live scope, with the calls before it behind it, and
the calls after it came from the scope it left. -/
theorem Evolves.exists_started {permitted : Request → Bool} {before after : Scope σ}
    {early late : List Exchange} {met : Exchange} (evolves : before.Evolves permitted after)
    (written : after.journal = before.journal ++ (early ++ met :: late)) :
    ∃ started : Scope σ, before.Evolves permitted started ∧ started.cancelled = false ∧
      started.journal = before.journal ++ early ∧
      met = started.exchange met.client met.request ∧
      ((started.afterCall met.client met.request).caching (·.after met)).Evolves permitted after := by
  -- The calls after it vary, since the last of them is taken off with the last step.
  induction evolves generalizing late with
  | refl => simp at written
  | @tail middle _ evolves step ih =>
    cases step with
    | note notices =>
      obtain ⟨started, reached, live, journal, same, onward⟩ := ih written
      exact ⟨started, reached, live, journal, same, onward.tail (.note middle notices)⟩
    | call client request allowed live lacking =>
      change middle.journal ++ [middle.exchange client request] = _ at written
      rcases late.eq_nil_or_concat with rfl | ⟨late, last, rfl⟩
      · rw [← List.append_assoc] at written
        obtain ⟨journal, same⟩ := List.append_inj' written rfl
        obtain rfl := List.singleton_inj.mp same
        exact ⟨middle, evolves, live, journal, rfl, .refl⟩
      · have whole : middle.journal ++ [middle.exchange client request] =
            (before.journal ++ (early ++ met :: late)) ++ [last] := by
          simpa using written
        obtain ⟨started, reached, alive, journal, same, onward⟩ :=
          ih (List.append_inj' whole rfl).1
        exact ⟨started, reached, alive, journal, same,
          onward.tail (.call middle client request allowed live lacking)⟩

/-- A call that meets the cancellation of its request is the last one, and the cache is what it
leaves. -/
theorem Evolves.of_interrupted {permitted : Request → Bool} {before after : Scope σ}
    {early late : List Exchange} {met : Exchange} (evolves : before.Evolves permitted after)
    (written : after.journal = before.journal ++ (early ++ met :: late))
    (interrupts : cancelledBy met.reply = true) :
    late = [] ∧ ∃ started : Scope σ, before.Evolves permitted started ∧
      started.cancelled = false ∧ started.journal = before.journal ++ early ∧
      met = started.exchange met.client met.request ∧ after.cache = started.cache.after met := by
  obtain ⟨started, reached, live, journal, same, onward⟩ := evolves.exists_started written
  have stopped : cancelledBy (started.reply met.client met.request) = true := by
    rw [same] at interrupts
    exact interrupts
  obtain ⟨-, last, kept⟩ := onward.of_cancelled stopped
  have whole : after.journal = before.journal ++ (early ++ [met]) := by
    rw [last]
    change started.journal ++ [started.exchange met.client met.request] = _
    rw [journal, ← same, List.append_assoc]
  rw [written, List.append_cancel_left_eq, List.append_cancel_left_eq] at whole
  exact ⟨(List.cons_eq_cons.mp whole).2, started, reached, live, journal, same, kept⟩

/-- An image that is cached is never replaced. -/
theorem Evolves.image_kept {permitted : Request → Bool} {before after : Scope σ} {name : String}
    {image : Image} (evolves : before.Evolves permitted after)
    (cached : before.cache.images.get? name = some image) :
    after.cache.images.get? name = some image := by
  induction evolves with
  | refl => exact cached
  | @tail middle _ _ step ih =>
    cases step with
    | note notices => exact ih
    | call client request allowed live lacking =>
      have fresh := (middle.cache.fetches_fresh (middle.exchange client request) lacking).2.2 name
      have unfetched := fresh.resolve_left (by simp [ih])
      refine (middle.cache.get?_images_after _ name).trans ?_
      rw [unfetched, Option.none_or, ih]

end ContainerStreams.Scope
