import ContainerStreams.Access.Project
import ContainerStreams.ControlPlane.Scripted
import ContainerStreams.Proofs.Access.Course
import ContainerStreams.Proofs.Store.Holding
import Mathlib.Data.List.Perm.Subperm

/-!
Many streams, of any projects, that look for limit ranges in one store. Main statement: a project
is listed exactly if the store cannot answer for it and the request is not cancelled, the store
answers with what was listed for the project last, and a failure changes nothing that it can answer
for. It cannot answer for what was never listed, is too old, or was used least recently when there
was no room.
-/

set_option autoImplicit false

namespace ContainerStreams

open ProjectStore (Entry)

def ProjectStore.learning {α : Type} (store : ProjectStore α) (project : String) :
    Except ApiError α → ProjectStore α
  | .ok value => store.add project value
  | .error _ => store.dropping project

namespace StreamAccess

variable {σ : Type} [ControlPlane σ] (access : StreamAccess)
  {store : ProjectStore LimitRangeList} (scope : Scope σ)

theorem exec_limitRangeList_of_found {entry : Entry LimitRangeList}
    (found : store.find? access.project = some entry) (fresh : store.isFresh entry = true) :
    scope.exec (access.limitRangeList store) =
      ((.ok entry.value, store.promoting entry), scope) := by
  have answered : ObjectStore.get access.project store =
      (some entry.value, store.promoting entry) := ProjectStore.get_of_holds found fresh
  unfold limitRangeList
  rw [answered]
  rfl

theorem exec_limitRangeList_of_not_holds (lacking : store.holds access.project = false) :
    let called := scope.exec (Scope.call .registry (.limitRanges access.project)).run
    scope.exec (access.limitRangeList store) =
      ((called.1.mapError .limitRangesUnavailable, store.learning access.project called.1),
        called.2) := by
  have unanswered : ObjectStore.get access.project store =
      (none, store.dropping access.project) := ProjectStore.get_of_not_holds lacking
  unfold limitRangeList
  rw [unanswered]
  refine (Scope.exec_bind ..).trans ?_
  dsimp only
  cases scope.exec (Scope.call .registry (.limitRanges access.project)).run with
  | mk result after =>
    cases result with
    | error cause => rfl
    | ok list =>
      have added : ObjectStore.add access.project list (store.dropping access.project) =
          (.ok (), store.add access.project list) :=
        congrArg (Prod.mk _) (ProjectStore.add_dropping list)
      dsimp only
      rw [added]
      rfl

end StreamAccess

def Exchange.listing? (now : Nat) : Exchange → Option (Entry LimitRangeList)
  | ⟨_, .limitRanges project, reply⟩ =>
    (Scope.received reply).toOption.map fun list => ⟨project, now, list⟩
  | _ => none

theorem Called.filterMap_listing? {client : Client} {project : String}
    {reply : Reply (Request.Answer (.limitRanges project))} {before after : Bool}
    {calls : List Exchange} {result : Except ApiError (Request.Answer (.limitRanges project))}
    (called : Called client (.limitRanges project) reply before calls result after) (now : Nat) :
    calls.filterMap (Exchange.listing? now) =
      (result.toOption.map fun list => ⟨project, now, list⟩).toList := by
  cases called with
  | refused => rfl
  | started =>
    rw [List.filterMap_cons, Exchange.listing?]
    cases Scope.received reply <;> rfl

namespace LimitRanges

structure Inquiry (σ : Type) where
  access : StreamAccess
  scope : Scope σ
  seconds : Nat := 0

/-- A request for limit ranges, with the store that it finds. A listing that takes its time counts
as made when it is answered: between the look-up and the addition nothing happens in the store, and
what is too old at the look-up is so at the addition. -/
structure Visit (σ : Type) where
  access : StreamAccess
  scope : Scope σ
  store : ProjectStore LimitRangeList

namespace Visit

variable {σ : Type} [ControlPlane σ] (visit : Visit σ)

def project : String := visit.access.project

def outcome : (Except Failure LimitRangeList × ProjectStore LimitRangeList) × Scope σ :=
  visit.scope.exec (visit.access.limitRangeList visit.store)

def answer : Except Failure LimitRangeList := visit.outcome.1.1

def after : ProjectStore LimitRangeList := visit.outcome.1.2

def calls : List Exchange := visit.outcome.2.journal.drop visit.scope.journal.length

def listings : List (Entry LimitRangeList) :=
  visit.calls.filterMap (Exchange.listing? visit.store.now)

/-- Whether the store can answer. -/
def held : Bool := visit.store.holds visit.project

end Visit

/-- The visits that inquiries lead to, one after the other. -/
def visits {σ : Type} [ControlPlane σ] (store : ProjectStore LimitRangeList) :
    List (Inquiry σ) → List (Visit σ)
  | [] => []
  | inquiry :: rest =>
    let visit : Visit σ := ⟨inquiry.access, inquiry.scope, store.later inquiry.seconds⟩
    visit :: visits visit.after rest

namespace Visit

section Single

variable {σ : Type} [ControlPlane σ] {visit : Visit σ}

/-- If the store cannot answer, the project is listed, unless the request is cancelled. -/
theorem called_of_not_held (lacking : visit.held = false) : ∃ reply result late,
    Called .registry (.limitRanges visit.project) reply visit.scope.cancelled visit.calls result
        late ∧
      visit.answer = result.mapError .limitRangesUnavailable ∧
      visit.after = visit.store.learning visit.project result := by
  obtain ⟨made, written, called⟩ :=
    visit.scope.exec_call_called .registry (.limitRanges visit.project)
  have ended : visit.outcome = _ :=
    visit.access.exec_limitRangeList_of_not_holds visit.scope lacking
  have same : visit.calls = made := by
    rw [calls, ended]
    exact (congrArg (List.drop _) written).trans List.drop_left
  rw [← same] at called
  exact ⟨_, _, _, called, by rw [answer, ended, project], by rw [after, ended, project]⟩

/-- How a visit goes: the store answers, or the project is listed, or it is not. -/
inductive Turn (visit : Visit σ) : Prop
  | found {entry : Entry LimitRangeList}
      (found : visit.store.find? visit.project = some entry)
      (fresh : visit.store.isFresh entry = true)
      (answer : visit.answer = .ok entry.value)
      (unlisted : visit.listings = [])
      (after : visit.after = visit.store.promoting entry)
  | listed {list : LimitRangeList}
      (lacking : visit.held = false)
      (answer : visit.answer = .ok list)
      (listings : visit.listings = [⟨visit.project, visit.store.now, list⟩])
      (after : visit.after = visit.store.add visit.project list)
  | failed {cause : ApiError}
      (lacking : visit.held = false)
      (answer : visit.answer = .error (.limitRangesUnavailable cause))
      (unlisted : visit.listings = [])
      (after : visit.after = visit.store.dropping visit.project)

theorem calls_of_held (held : visit.held = true) : visit.calls = [] := by
  obtain ⟨entry, found, fresh⟩ := ProjectStore.holds_eq_true_iff.mp held
  have ended : visit.outcome = _ :=
    visit.access.exec_limitRangeList_of_found visit.scope found fresh
  rw [calls, ended, List.drop_length]

theorem turn (visit : Visit σ) : visit.Turn := by
  cases answerable : visit.held with
  | true =>
    obtain ⟨entry, found, fresh⟩ := ProjectStore.holds_eq_true_iff.mp answerable
    have ended : visit.outcome = _ :=
      visit.access.exec_limitRangeList_of_found visit.scope found fresh
    refine .found found fresh (by rw [answer, ended]) ?_ (by rw [after, ended])
    rw [listings, calls_of_held answerable, List.filterMap_nil]
  | false =>
    obtain ⟨reply, result, late, called, answer, after⟩ := called_of_not_held answerable
    have listings := called.filterMap_listing? visit.store.now
    cases result with
    | ok list => exact .listed answerable answer listings after
    | error cause => exact .failed answerable answer listings after

end Single

end Visit

section Past

variable {σ : Type} [ControlPlane σ]

/-- What was listed for a project last. -/
def lastListing? (past : List (Visit σ)) (project : String) : Option (Entry LimitRangeList) :=
  (past.flatMap Visit.listings).reverse.find? fun listing => listing.project = project

/-- The projects that an answer was given for, in the order of the answers. -/
def answered (past : List (Visit σ)) : List String :=
  (past.filter fun visit => visit.answer.isOk).map Visit.project

/-- A project that had to go, and has not been listed since. -/
def Evicted (past : List (Visit σ)) (project : String) : Prop :=
  ∃ before visit since, past = before ++ visit :: since ∧ visit.listings ≠ [] ∧
    visit.store.Evicts visit.project project ∧
    ∀ listing ∈ since.flatMap Visit.listings, listing.project ≠ project

variable (past : List (Visit σ)) {visit : Visit σ}

theorem flatMap_listings_concat : (past ++ [visit]).flatMap Visit.listings =
    past.flatMap Visit.listings ++ visit.listings := by
  simp

theorem lastListing?_concat (project : String) : lastListing? (past ++ [visit]) project =
    (visit.listings.reverse.find? fun listing => listing.project = project).or
      (lastListing? past project) := by
  rw [lastListing?, flatMap_listings_concat, List.reverse_append, List.find?_append, lastListing?]

theorem answered_concat : answered (past ++ [visit]) =
    answered past ++ if visit.answer.isOk then [visit.project] else [] := by
  rw [answered, List.filter_append, List.map_append, List.filter_singleton]
  cases visit.answer.isOk <;> rfl

theorem evicted_concat_iff (project : String) : Evicted (past ++ [visit]) project ↔
    visit.listings ≠ [] ∧ visit.store.Evicts visit.project project ∨
      Evicted past project ∧ ∀ listing ∈ visit.listings, listing.project ≠ project := by
  constructor
  · rintro ⟨before, evictor, since, same, listed, evicts, unlisted⟩
    rcases List.eq_nil_or_concat' since with rfl | ⟨since, last, rfl⟩
    · obtain ⟨-, isLast⟩ := List.append_inj' same rfl
      obtain rfl := List.singleton_inj.mp isLast
      exact .inl ⟨listed, evicts⟩
    · rw [← List.cons_append, ← List.append_assoc] at same
      obtain ⟨rfl, isLast⟩ := List.append_inj' same rfl
      obtain rfl := List.singleton_inj.mp isLast
      simp only [List.flatMap_append, List.mem_append, or_imp, forall_and] at unlisted
      refine .inr ⟨⟨before, evictor, since, rfl, listed, evicts, unlisted.1⟩, ?_⟩
      simpa using unlisted.2
  · rintro (⟨listed, evicts⟩ | ⟨⟨before, evictor, since, rfl, listed, evicts, unlisted⟩, others⟩)
    · exact ⟨past, visit, [], rfl, listed, evicts, by simp⟩
    · refine ⟨before, evictor, since ++ [visit], by simp, listed, evicts, ?_⟩
      simp only [List.flatMap_append, List.mem_append, or_imp, forall_and]
      exact ⟨unlisted, by simpa using others⟩

end Past

/-- What a store and the visits that have led to it have to do with each other: it keeps what was
listed last, by recency, and of what was listed it lacks no more than what is too old and what had
to go. -/
structure Account {σ : Type} [ControlPlane σ] (past : List (Visit σ))
    (store : ProjectStore LimitRangeList) : Prop where
  bounded : store.Bounded
  ranked : store.projects.Sublist (ProjectStore.byRecency (answered past))
  latest : ∀ entry ∈ store.entries, lastListing? past entry.project = some entry
  lost : ∀ project ∉ store.projects, ∀ listing, lastListing? past project = some listing →
    store.isFresh listing = false ∨ Evicted past project
  gone : ∀ project, Evicted past project → project ∉ store.projects

namespace Account

variable {σ : Type} [ControlPlane σ] {past : List (Visit σ)} {store : ProjectStore LimitRangeList}

theorem start (capacity ttl : Nat) :
    Account ([] : List (Visit σ)) { capacity, ttl } where
  bounded := ⟨List.nodup_nil, Nat.zero_le _⟩
  ranked := List.nil_sublist _
  latest := nofun
  lost := nofun
  gone := by simp [Evicted]

/-- Nothing gets any younger. -/
theorem later (account : Account past store) (seconds : Nat) :
    Account past (store.later seconds) where
  bounded := ⟨account.bounded.nodup, account.bounded.size_le⟩
  ranked := account.ranked
  latest := account.latest
  lost := by
    intro project absent listing last
    exact (account.lost project absent listing last).imp_left fun old =>
      store.not_isFresh_later old seconds
  gone := account.gone

/-- The store can answer exactly with what was listed last, unless that is too old or had to go. -/
theorem holds_iff (account : Account past store) (project : String) :
    store.holds project = true ↔ ∃ listing, lastListing? past project = some listing ∧
      store.isFresh listing = true ∧ ¬ Evicted past project := by
  rw [ProjectStore.holds_eq_true_iff]
  constructor
  · rintro ⟨entry, found, fresh⟩
    obtain ⟨member, rfl⟩ := store.mem_and_project_eq_of_find? found
    exact ⟨entry, account.latest entry member, fresh,
      fun evicted => account.gone _ evicted (List.mem_map_of_mem member)⟩
  · rintro ⟨listing, last, fresh, kept⟩
    have held : project ∈ store.projects := by
      by_contra absent
      rcases account.lost project absent listing last with old | evicted
      · rw [old] at fresh
        cases fresh
      · exact kept evicted
    obtain ⟨entry, member, rfl, found⟩ := store.exists_find?_of_mem held
    have same := (account.latest entry member).symm.trans last
    obtain rfl := Option.some.inj same
    exact ⟨entry, found, fresh⟩

section Step

variable {visit : Visit σ}

/-- Without a listing the store may change the order of its entries and lose what is too old. -/
theorem unlisted (account : Account past visit.store) (unlisted : visit.listings = [])
    {entries : List (Entry LimitRangeList)}
    (bounded : ProjectStore.Bounded { visit.store with entries })
    (ranked : (entries.map Entry.project).Sublist
      (ProjectStore.byRecency (answered (past ++ [visit]))))
    (known : entries ⊆ visit.store.entries)
    (old : ∀ entry ∈ visit.store.entries, entry.project ∉ entries.map Entry.project →
      visit.store.isFresh entry = false) :
    Account (past ++ [visit]) { visit.store with entries } := by
  have unchanged (project : String) :
      lastListing? (past ++ [visit]) project = lastListing? past project := by
    rw [lastListing?_concat, unlisted]
    rfl
  have evicted_iff (project : String) :
      Evicted (past ++ [visit]) project ↔ Evicted past project := by
    simp [evicted_concat_iff, unlisted]
  refine ⟨bounded, ranked, ?_, ?_, ?_⟩
  · intro entry member
    rw [unchanged]
    exact account.latest entry (known member)
  · intro project absent listing last
    rw [unchanged] at last
    by_cases held : project ∈ visit.store.projects
    · obtain ⟨entry, member, rfl⟩ := List.mem_map.mp held
      have same := (account.latest entry member).symm.trans last
      obtain rfl := Option.some.inj same
      exact .inl (old entry member absent)
    · exact (account.lost project held listing last).imp_right (evicted_iff project).mpr
  · intro project evicted held
    obtain ⟨entry, member, rfl⟩ := List.mem_map.mp held
    exact account.gone _ ((evicted_iff _).mp evicted) (List.mem_map_of_mem (known member))

theorem found {entry : Entry LimitRangeList} (account : Account past visit.store)
    (found : visit.store.find? visit.project = some entry)
    (fresh : visit.store.isFresh entry = true) (answer : visit.answer = .ok entry.value)
    (unlisted : visit.listings = []) :
    Account (past ++ [visit]) (visit.store.promoting entry) := by
  obtain ⟨known, same⟩ := visit.store.mem_and_project_eq_of_find? found
  have bounded := account.bounded.get visit.project
  rw [ProjectStore.get_of_holds found fresh] at bounded
  refine account.unlisted unlisted bounded ?_ ?_ ?_
  · rw [answered_concat, answer]
    change (visit.store.promoting entry).projects.Sublist (ProjectStore.byRecency (_ ++ [_]))
    rw [ProjectStore.byRecency_concat, ProjectStore.projects_promoting, same]
    exact (account.ranked.filter _).cons_cons _
  · intro other member
    exact ProjectStore.mem_entries_of_mem_promoting known member
  · intro other member absent
    have held := (ProjectStore.mem_projects_promoting_iff entry other.project).mpr
      (.inr (List.mem_map_of_mem member))
    exact absurd held absent

theorem failed (account : Account past visit.store) {failure : Failure}
    (lacking : visit.held = false) (answer : visit.answer = .error failure)
    (unlisted : visit.listings = []) :
    Account (past ++ [visit]) (visit.store.dropping visit.project) := by
  have bounded := account.bounded.get visit.project
  rw [ProjectStore.get_of_not_holds lacking] at bounded
  refine account.unlisted unlisted bounded ?_ ?_ ?_
  · rw [answered_concat, answer]
    change (visit.store.dropping visit.project).projects.Sublist (ProjectStore.byRecency (_ ++ []))
    rw [ProjectStore.projects_dropping, List.append_nil]
    exact List.filter_sublist.trans account.ranked
  · intro other member
    exact ProjectStore.mem_entries_of_mem_dropping member
  · intro other member absent
    have same : other.project = visit.project := by
      by_contra differs
      exact absent ((ProjectStore.mem_projects_dropping_iff _ _).mpr
        ⟨List.mem_map_of_mem member, differs⟩)
    exact ProjectStore.not_isFresh_of_not_holds account.bounded member (same ▸ lacking)

/-- What a listing displaces has to go, and what had to go earlier stays away. -/
theorem listed (account : Account past visit.store) {list : LimitRangeList}
    (answer : visit.answer = .ok list)
    (listings : visit.listings = [⟨visit.project, visit.store.now, list⟩]) :
    Account (past ++ [visit]) (visit.store.add visit.project list) := by
  have last? (project : String) : lastListing? (past ++ [visit]) project =
      if visit.project = project then some ⟨visit.project, visit.store.now, list⟩
      else lastListing? past project := by
    rw [lastListing?_concat, listings]
    by_cases same : visit.project = project <;> simp [same]
  have evicted_iff (project : String) : Evicted (past ++ [visit]) project ↔
      visit.store.Evicts visit.project project ∨
        Evicted past project ∧ visit.project ≠ project := by
    simp [evicted_concat_iff, listings]
  have displaced {project : String} (held : project ∈ visit.store.projects) :
      project ∉ (visit.store.add visit.project list).projects ↔
        visit.store.Evicts visit.project project :=
    ProjectStore.displaced_iff account.bounded held
  refine ⟨account.bounded.add visit.project list, ?_, ?_, ?_, ?_⟩
  · rw [answered_concat, answer]
    change List.Sublist _ (ProjectStore.byRecency (_ ++ [_]))
    rw [ProjectStore.byRecency_concat, ProjectStore.projects_add]
    exact (List.take_sublist _ _).trans ((account.ranked.filter _).cons_cons _)
  · intro entry member
    rw [last?]
    rcases ProjectStore.mem_entries_add member with rfl | ⟨known, differs⟩
    · exact if_pos rfl
    · rw [if_neg differs.symm]
      exact account.latest entry known
  · intro project absent listing last
    have differs : visit.project ≠ project := by
      rintro rfl
      exact absent (ProjectStore.mem_projects_add visit.project list)
    rw [last?, if_neg differs] at last
    rw [evicted_iff]
    by_cases held : project ∈ visit.store.projects
    · exact .inr (.inl ((displaced held).mp absent))
    · exact (account.lost project held listing last).imp_right fun evicted =>
        .inr ⟨evicted, differs⟩
  · intro project evicted held
    rcases (evicted_iff project).mp evicted with evicts | ⟨earlier, differs⟩
    · exact (displaced (List.mem_of_getLast? evicts.idle)).mpr evicts held
    · have known := (ProjectStore.eq_or_mem_of_mem_projects_add held).resolve_left differs.symm
      exact account.gone project earlier known

theorem step (account : Account past visit.store) : Account (past ++ [visit]) visit.after := by
  cases visit.turn with
  | found found fresh answer unlisted after =>
    rw [after]
    exact account.found found fresh answer unlisted
  | listed lacking answer listings after =>
    rw [after]
    exact account.listed answer listings
  | failed lacking answer unlisted after =>
    rw [after]
    exact account.failed lacking answer unlisted

end Step

/-- By induction on the inquiries: each visit is accounted for by those before it. -/
theorem of_visits {inquiries : List (Inquiry σ)} (account : Account past store)
    {before future : List (Visit σ)} {visit : Visit σ}
    (split : visits store inquiries = before ++ visit :: future) :
    Account (past ++ before) visit.store := by
  induction inquiries generalizing past store before with
  | nil => exact absurd split (by simp [visits])
  | cons inquiry rest ih =>
    rw [visits] at split
    cases before with
    | nil =>
      obtain ⟨rfl, -⟩ := List.cons_eq_cons.mp split
      rw [List.append_nil]
      exact account.later inquiry.seconds
    | cons first before =>
      obtain ⟨rfl, remaining⟩ := List.cons_eq_cons.mp split
      have onward := ih (account.later inquiry.seconds).step remaining
      rwa [List.append_assoc, List.singleton_append] at onward

end Account

section Visit

variable {σ : Type} [ControlPlane σ]

theorem Visit.map_call_calls (visit : Visit σ) : visit.calls.map Exchange.call =
    if visit.held || visit.scope.cancelled then [] else [(.registry, .limitRanges visit.project)]
    := by
  cases answerable : visit.held with
  | true =>
    rw [calls_of_held answerable]
    rfl
  | false =>
    obtain ⟨reply, result, late, called, -, -⟩ := called_of_not_held answerable
    rw [called.map_call_eq, Bool.false_or]

theorem Visit.isOk_answer_iff (visit : Visit σ) :
    visit.answer.isOk = true ↔ visit.held = true ∨ visit.listings ≠ [] := by
  cases visit.turn with
  | found found fresh answer unlisted after =>
    have answerable : visit.held = true := ProjectStore.holds_eq_true_iff.mpr ⟨_, found, fresh⟩
    exact iff_of_true (by rw [answer]; rfl) (.inl answerable)
  | listed lacking answer listings after =>
    exact iff_of_true (by rw [answer]; rfl) (.inr (by simp [listings]))
  | failed lacking answer unlisted after =>
    exact iff_of_false (by simp [answer, Except.isOk, Except.toBool]) (by simp [lacking, unlisted])

theorem Account.answer_eq {past : List (Visit σ)} {visit : Visit σ}
    (account : Account past visit.store) : match visit.answer with
      | .ok list => ∃ listing, lastListing? (past ++ [visit]) visit.project = some listing ∧
          listing.value = list
      | .error failure =>
          failure.code = .unknown ∧ visit.after.unexpired = visit.store.unexpired := by
  cases visit.turn with
  | @found entry found fresh answer unlisted after =>
    obtain ⟨member, same⟩ := visit.store.mem_and_project_eq_of_find? found
    rw [answer]
    refine ⟨entry, ?_, rfl⟩
    rw [lastListing?_concat, unlisted, ← same]
    exact account.latest entry member
  | @listed list lacking answer listings after =>
    rw [answer]
    refine ⟨⟨visit.project, visit.store.now, list⟩, ?_, rfl⟩
    rw [lastListing?_concat, listings]
    simp
  | failed lacking answer unlisted after =>
    rw [answer, after]
    exact ⟨rfl, ProjectStore.unexpired_dropping account.bounded lacking⟩

end Visit

/-- As long as nothing is too old and there is room for all projects, whatever was listed is still
there, and was listed but once. -/
structure Roomy {σ : Type} [ControlPlane σ] (names : List String) (past : List (Visit σ))
    (store : ProjectStore LimitRangeList) : Prop where
  room : names.length ≤ store.limit
  bounded : store.Bounded
  named : store.projects ⊆ names
  kept : ∀ listing ∈ past.flatMap Visit.listings, listing.project ∈ store.projects
  once : ((past.flatMap Visit.listings).map Entry.project).Nodup

namespace Roomy

variable {σ : Type} [ControlPlane σ] {names : List String} {past : List (Visit σ)}

/-- There is room for one more of the projects, so that none has to go. -/
theorem not_evicts {store : ProjectStore LimitRangeList} (roomy : Roomy names past store)
    {project : String} (named : project ∈ names) (victim : String) :
    ¬ store.Evicts project victim := by
  intro evicts
  have distinct := List.nodup_cons.mpr ⟨evicts.unknown, roomy.bounded.nodup⟩
  have among := List.Nodup.subperm distinct (List.cons_subset.mpr ⟨named, roomy.named⟩)
  have fits := among.length_le
  have full := evicts.full
  rw [ProjectStore.size_eq_length_projects] at full
  have room := roomy.room
  rw [List.length_cons] at fits
  omega

section Step

variable {visit : Visit σ}

theorem found {entry : Entry LimitRangeList} (roomy : Roomy names past visit.store)
    (named : visit.project ∈ names) (found : visit.store.find? visit.project = some entry)
    (fresh : visit.store.isFresh entry = true) (unlisted : visit.listings = []) :
    Roomy names (past ++ [visit]) (visit.store.promoting entry) := by
  have bounded := roomy.bounded.get visit.project
  rw [ProjectStore.get_of_holds found fresh] at bounded
  have ⟨_, same⟩ := visit.store.mem_and_project_eq_of_find? found
  refine ⟨roomy.room, bounded, ?_, ?_, ?_⟩
  · intro project held
    rcases (ProjectStore.mem_projects_promoting_iff entry project).mp held with rfl | known
    · exact same ▸ named
    · exact roomy.named known
  · rw [flatMap_listings_concat, unlisted, List.append_nil]
    intro listing member
    have known := roomy.kept listing member
    exact (ProjectStore.mem_projects_promoting_iff entry listing.project).mpr (.inr known)
  · rw [flatMap_listings_concat, unlisted, List.append_nil]
    exact roomy.once

theorem listed {list : LimitRangeList} (roomy : Roomy names past visit.store)
    (unknown : visit.project ∉ visit.store.projects) (named : visit.project ∈ names)
    (listings : visit.listings = [⟨visit.project, visit.store.now, list⟩]) :
    Roomy names (past ++ [visit]) (visit.store.add visit.project list) := by
  have remains {project : String} (held : project ∈ visit.store.projects) :
      project ∈ (visit.store.add visit.project list).projects := by
    by_contra displaced
    exact roomy.not_evicts named project
      ((ProjectStore.displaced_iff roomy.bounded held).mp displaced)
  refine ⟨roomy.room, roomy.bounded.add visit.project list, ?_, ?_, ?_⟩
  · intro project held
    rcases ProjectStore.eq_or_mem_of_mem_projects_add held with rfl | known
    · exact named
    · exact roomy.named known
  · intro listing member
    rw [flatMap_listings_concat, listings] at member
    rcases List.mem_append.mp member with earlier | now
    · exact remains (roomy.kept listing earlier)
    · rw [List.mem_singleton.mp now]
      exact ProjectStore.mem_projects_add visit.project list
  · have apart : visit.project ∉ (past.flatMap Visit.listings).map Entry.project := by
      intro twice
      obtain ⟨listing, member, same⟩ := List.mem_map.mp twice
      exact unknown (same ▸ roomy.kept listing member)
    rw [flatMap_listings_concat, listings, List.map_append]
    refine List.nodup_append.mpr ⟨roomy.once, List.nodup_singleton _, ?_⟩
    rintro project earlier other now rfl
    obtain rfl : project = visit.project := List.mem_singleton.mp now
    exact apart earlier

theorem step (roomy : Roomy names past visit.store) (young : visit.store.Unexpired)
    (named : visit.project ∈ names) : Roomy names (past ++ [visit]) visit.after := by
  cases visit.turn with
  | found found fresh answer unlisted after =>
    rw [after]
    exact roomy.found named found fresh unlisted
  | listed lacking answer listings after =>
    rw [after]
    have unknown := ProjectStore.not_mem_projects_of_not_holds young lacking
    exact roomy.listed unknown named listings
  | failed lacking answer unlisted after =>
    have unknown := ProjectStore.not_mem_projects_of_not_holds young lacking
    have same : visit.store.dropping visit.project = visit.store := by
      rw [ProjectStore.dropping, visit.store.without_of_not_mem unknown]
    have whole : (past ++ [visit]).flatMap Visit.listings = past.flatMap Visit.listings := by
      rw [flatMap_listings_concat, unlisted, List.append_nil]
    rw [after, same]
    exact ⟨roomy.room, roomy.bounded, roomy.named, whole ▸ roomy.kept, whole ▸ roomy.once⟩

end Step

theorem once_of_visits {store : ProjectStore LimitRangeList} {inquiries : List (Inquiry σ)}
    (roomy : Roomy names past store)
    (named : ∀ visit ∈ visits store inquiries, visit.project ∈ names)
    (young : ∀ visit ∈ visits store inquiries, visit.store.Unexpired) :
    (((past ++ visits store inquiries).flatMap Visit.listings).map Entry.project).Nodup := by
  induction inquiries generalizing past store with
  | nil =>
    rw [visits, List.append_nil]
    exact roomy.once
  | cons inquiry rest ih =>
    rw [visits] at named young ⊢
    have ⟨firstNamed, restNamed⟩ := List.forall_mem_cons.mp named
    have ⟨firstYoung, restYoung⟩ := List.forall_mem_cons.mp young
    have later : Roomy names past (store.later inquiry.seconds) :=
      ⟨roomy.room, ⟨roomy.bounded.nodup, roomy.bounded.size_le⟩, roomy.named, roomy.kept,
        roomy.once⟩
    have onward := ih (later.step firstYoung firstNamed) restNamed restYoung
    rwa [List.append_assoc, List.singleton_append] at onward

end Roomy

/-- Any streams may look for limit ranges in one store that is empty at first, with any answers of
the control plane. A project is listed exactly if the store cannot answer for it and the request is
not cancelled. The store can answer if the project was listed before, what was listed last is not
too old, and the project has not been the one to go since, which is the one used least recently.
An answer is always what was listed last for just that project. Without an answer the failure is
unknown, and what the store can answer for stays as it is, in the same order.

If there is room for all projects and nothing is ever too old, no project is listed twice. -/
theorem visits_answer_last_listing {σ : Type} [ControlPlane σ] (capacity ttl : Nat)
    (inquiries : List (Inquiry σ)) :
    let all := visits { capacity, ttl } inquiries
    (∀ past visit future, all = past ++ visit :: future →
      visit.calls.map Exchange.call =
          (if visit.held || visit.scope.cancelled then []
            else [(.registry, .limitRanges visit.project)]) ∧
      (visit.held = true ↔ ∃ listing, lastListing? past visit.project = some listing ∧
        visit.store.isFresh listing = true ∧ ¬ Evicted past visit.project) ∧
      visit.store.projects.Sublist (ProjectStore.byRecency (answered past)) ∧
      (visit.answer.isOk = true ↔ visit.held = true ∨ visit.listings ≠ []) ∧
      match visit.answer with
      | .ok list => ∃ listing, lastListing? (past ++ [visit]) visit.project = some listing ∧
          listing.value = list
      | .error failure =>
          failure.code = .unknown ∧ visit.after.unexpired = visit.store.unexpired) ∧
    ((all.map Visit.project).eraseDups.length ≤ max capacity 1 →
      (∀ visit ∈ all, visit.store.Unexpired) →
      ((all.flatMap Visit.listings).map Entry.project).Nodup) := by
  intro all
  constructor
  · intro past visit future split
    have account := (Account.start capacity ttl).of_visits split
    rw [List.nil_append] at account
    exact ⟨visit.map_call_calls, account.holds_iff visit.project, account.ranked,
      visit.isOk_answer_iff, account.answer_eq⟩
  · intro room young
    have roomy : Roomy (all.map Visit.project).eraseDups ([] : List (Visit σ))
        { capacity, ttl } :=
      ⟨room, ⟨List.nodup_nil, Nat.zero_le _⟩, List.nil_subset _, nofun, List.nodup_nil⟩
    exact roomy.once_of_visits
      (fun visit member => List.mem_eraseDups.mpr (List.mem_map_of_mem member)) young

/-- With room for one project, the second one makes the first one go. With room for both, none is
listed twice, until what was listed is too old. -/
example :
    let ask (project : String) (seconds : Nat) : Inquiry Scripted :=
      { access := { project, name := "app" }, scope := { plane := {} }, seconds }
    let listed (capacity : Nat) : List String :=
      ((visits { capacity, ttl := 300 } [ask "a" 0, ask "b" 10, ask "a" 10, ask "b" 300]).flatMap
        Visit.listings).map Entry.project
    listed 1 = ["a", "b", "a", "b"] ∧ listed 2 = ["a", "b", "b"] := by
  decide +kernel

end LimitRanges

end ContainerStreams
