import ContainerStreams.ControlPlane.Scope

set_option autoImplicit false

namespace ContainerStreams

namespace Request

/-- Whether the request asks for something that is kept. -/
def isFetch : Request → Bool
  | .imageStream _ _ => true
  | .streamLayers _ _ => true
  | .image _ => true
  | _ => false

end Request

namespace Exchange

def failure? (exchange : Exchange) : Option ApiError :=
  match Scope.received exchange.reply with
  | .ok _ => none
  | .error cause => some cause

def fetchedStream? : Exchange → Option ImageStream
  | ⟨_, .imageStream _ _, reply⟩ => (Scope.received reply).toOption
  | _ => none

def fetchedLayers? : Exchange → Option StreamLayers
  | ⟨_, .streamLayers _ _, reply⟩ => (Scope.received reply).toOption
  | _ => none

/-- An image that was fetched, under the name it was asked for. -/
def fetchedEntry? : Exchange → Option (String × Image)
  | ⟨_, .image name, reply⟩ => (Scope.received reply).toOption.map (name, ·)
  | _ => none

def fetchedImage? (name : String) (exchange : Exchange) : Option Image :=
  exchange.fetchedEntry?.bind fun entry => if name = entry.1 then some entry.2 else none

/-- The stream that is cached after a creation. If another writer has created it meanwhile, no
stream is answered, and the one that was sent is cached as if it were the answer. -/
def createdStream? (sent : ImageStream) : Except ApiError ImageStream → Option ImageStream
  | .ok created => some created
  | .error cause => if cause.isAlreadyExists || cause.isConflict then some sent else none

def provisioned? : Exchange → Option ImageStream
  | ⟨_, .createStream sent, reply⟩ => createdStream? sent (Scope.received reply)
  | _ => none

/-- Whether the exchange makes a later request superfluous. -/
def supplies (exchange : Exchange) : Request → Bool
  | .imageStream _ _ => exchange.fetchedStream?.isSome || exchange.provisioned?.isSome
  | .streamLayers _ _ => exchange.fetchedLayers?.isSome
  | .image name => (exchange.fetchedImage? name).isSome
  | _ => false

end Exchange

namespace Cache

def holds (cache : Cache) : Request → Bool
  | .imageStream _ _ => cache.stream.isSome
  | .streamLayers _ _ => cache.layers.isSome
  | .image name => cache.images.contains name
  | _ => false

/-- The cache once an exchange is over. It keeps what was answered and, after a creation that was
lost to another writer, the stream that was sent. -/
def after (cache : Cache) (exchange : Exchange) : Cache where
  stream := exchange.provisioned?.or (exchange.fetchedStream?.or cache.stream)
  layers := exchange.fetchedLayers?.or cache.layers
  images :=
    match exchange.fetchedEntry? with
    | some (name, image) => cache.images.insert name image
    | none => cache.images

theorem after_imageStream (cache : Cache) (client : Client) (project name : String)
    (reply : Reply ImageStream) : cache.after ⟨client, .imageStream project name, reply⟩ =
      (Scope.received reply).toOption.elim cache fun stream =>
        { cache with stream := some stream } := by
  change Cache.mk ((Scope.received reply).toOption.or cache.stream) cache.layers cache.images = _
  cases (Scope.received reply).toOption <;> rfl

theorem after_streamLayers (cache : Cache) (client : Client) (project name : String)
    (reply : Reply StreamLayers) : cache.after ⟨client, .streamLayers project name, reply⟩ =
      (Scope.received reply).toOption.elim cache fun layers =>
        { cache with layers := some layers } := by
  change Cache.mk cache.stream ((Scope.received reply).toOption.or cache.layers) cache.images = _
  cases (Scope.received reply).toOption <;> rfl

theorem after_image (cache : Cache) (client : Client) (name : String) (reply : Reply Image) :
    cache.after ⟨client, .image name, reply⟩ =
      (Scope.received reply).toOption.elim cache fun image =>
        { cache with images := cache.images.insert name image } := by
  change Cache.mk cache.stream cache.layers
    (match (Scope.received reply).toOption.map (name, ·) with
    | some (name, image) => cache.images.insert name image
    | none => cache.images) = _
  cases (Scope.received reply).toOption <;> rfl

theorem after_createStream (cache : Cache) (client : Client) (sent : ImageStream)
    (reply : Reply ImageStream) : cache.after ⟨client, .createStream sent, reply⟩ =
      (Exchange.provisioned? ⟨client, .createStream sent, reply⟩).elim cache fun stream =>
        { cache with stream := some stream } := by
  change Cache.mk ((Exchange.provisioned? ⟨client, .createStream sent, reply⟩).or cache.stream)
    cache.layers cache.images = _
  cases Exchange.provisioned? ⟨client, .createStream sent, reply⟩ <;> rfl

theorem after_of_abandoned (cache : Cache) (client : Client) (request : Request) :
    cache.after ⟨client, request, .abandoned⟩ = cache := by
  cases request <;> rfl

theorem get?_images_after (cache : Cache) (exchange : Exchange) (wanted : String) :
    (cache.after exchange).images.get? wanted =
      (exchange.fetchedImage? wanted).or (cache.images.get? wanted) := by
  unfold after Exchange.fetchedImage?
  cases exchange.fetchedEntry? with
  | none => rfl
  | some entry =>
    rw [SortedMap.get?_insert, Option.bind_some]
    split <;> rfl

/-- An exchange that was needed fetches nothing that the cache holds already. -/
theorem fetches_fresh (cache : Cache) (exchange : Exchange)
    (lacking : cache.holds exchange.request = false) :
    (cache.stream = none ∨ exchange.fetchedStream? = none) ∧
      (cache.layers = none ∨ exchange.fetchedLayers? = none) ∧
      ∀ name, cache.images.get? name = none ∨ exchange.fetchedImage? name = none := by
  obtain ⟨client, request, reply⟩ := exchange
  cases request with
  | imageStream project name =>
    exact ⟨Or.inl (by simpa [holds] using lacking), Or.inr rfl, fun _ => Or.inr rfl⟩
  | streamLayers project name =>
    exact ⟨Or.inr rfl, Or.inl (by simpa [holds] using lacking), fun _ => Or.inr rfl⟩
  | image asked =>
    refine ⟨Or.inr rfl, Or.inr rfl, fun name => ?_⟩
    by_cases same : name = asked
    · exact Or.inl (by simpa [holds, SortedMap.contains, same] using lacking)
    · refine Or.inr ?_
      change ((Scope.received reply).toOption.map (asked, ·)).bind _ = none
      cases (Scope.received reply).toOption with
      | none => rfl
      | some image => exact if_neg same
  | _ => exact ⟨Or.inr rfl, Or.inr rfl, fun _ => Or.inr rfl⟩

end Cache

/-- The stream that a journal leaves in force: the one provisioned last, or, as long as none was
provisioned, the one fetched first. -/
def standingStream (journal : List Exchange) : Option ImageStream :=
  (journal.filterMap Exchange.provisioned?).getLast?.or (journal.findSome? Exchange.fetchedStream?)

/-- The cache holds what the journal leaves in force: the layers and the images are those that
were fetched first. -/
structure Cache.Records (cache : Cache) (journal : List Exchange) : Prop where
  stream : cache.stream = standingStream journal
  layers : cache.layers = journal.findSome? Exchange.fetchedLayers?
  images : ∀ name, cache.images.get? name = journal.findSome? (Exchange.fetchedImage? name)

theorem findSome?_concat {α β : Type} (find : α → Option β) (items : List α) (item : α) :
    (items ++ [item]).findSome? find = (items.findSome? find).or (find item) := by
  rw [List.findSome?_append, List.findSome?_cons]
  cases find item <;> rfl

theorem standingStream_eq_none_iff (journal : List Exchange) : standingStream journal = none ↔
    ∀ exchange ∈ journal, exchange.provisioned? = none ∧ exchange.fetchedStream? = none := by
  rw [standingStream, Option.or_eq_none_iff, List.getLast?_eq_none_iff, List.filterMap_eq_nil_iff,
    List.findSome?_eq_none_iff]
  constructor
  · intro neither exchange member
    obtain ⟨uncreated, unfetched⟩ := neither
    exact ⟨uncreated exchange member, unfetched exchange member⟩
  · intro neither
    exact ⟨fun exchange member => (neither exchange member).1,
      fun exchange member => (neither exchange member).2⟩

theorem isSome_standingStream (journal : List Exchange) : (standingStream journal).isSome =
    journal.any fun exchange => exchange.fetchedStream?.isSome || exchange.provisioned?.isSome := by
  rw [← Bool.not_inj_iff, Bool.eq_iff_iff, Bool.not_eq_true', Bool.not_eq_true', List.any_eq_false,
    Option.isSome_eq_false_iff, Option.isNone_iff_eq_none, standingStream_eq_none_iff]
  simp [and_comm]

theorem standingStream_concat (journal : List Exchange) (exchange : Exchange) :
    standingStream (journal ++ [exchange]) = exchange.provisioned?.or
      ((standingStream journal).or exchange.fetchedStream?) := by
  unfold standingStream
  rw [List.filterMap_append, findSome?_concat]
  cases created : exchange.provisioned? with
  | some stream => simp [created]
  | none => simp [created, Option.or_assoc]

namespace Cache.Records

variable {cache : Cache} {journal : List Exchange}

theorem empty : Records {} [] := ⟨rfl, rfl, fun _ => rfl⟩

/-- What is held is what some exchange has supplied. -/
theorem holds_eq (records : cache.Records journal) (request : Request) :
    cache.holds request = journal.any (·.supplies request) := by
  rw [Bool.eq_iff_iff, List.any_eq_true]
  cases request with
  | imageStream project name =>
    change cache.stream.isSome = true ↔ ∃ exchange ∈ journal,
      (exchange.fetchedStream?.isSome || exchange.provisioned?.isSome) = true
    rw [records.stream, isSome_standingStream, List.any_eq_true]
  | streamLayers project name =>
    change cache.layers.isSome = true ↔ _
    rw [records.layers, List.findSome?_isSome_iff]
    rfl
  | image name =>
    change (cache.images.get? name).isSome = true ↔ _
    rw [records.images, List.findSome?_isSome_iff]
    rfl
  | _ => simp [Cache.holds, Exchange.supplies]

theorem concat (records : cache.Records journal) (exchange : Exchange)
    (lacking : cache.holds exchange.request = false) :
    (cache.after exchange).Records (journal ++ [exchange]) := by
  have swap {α : Type} {held fetched : Option α} (fresh : held = none ∨ fetched = none) :
      fetched.or held = held.or fetched := by
    rcases fresh with rfl | rfl <;> simp
  obtain ⟨stream, layers, images⟩ := cache.fetches_fresh exchange lacking
  refine ⟨?_, ?_, fun name => ?_⟩
  · rw [standingStream_concat, ← records.stream, ← swap stream]
    rfl
  · rw [findSome?_concat, ← records.layers, ← swap layers]
    rfl
  · rw [findSome?_concat, ← records.images, ← swap (images name), Cache.get?_images_after]

end Cache.Records

end ContainerStreams
