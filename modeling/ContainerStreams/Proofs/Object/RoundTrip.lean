import ContainerStreams.Digest.Basic
import ContainerStreams.Object.Layers
import ContainerStreams.Object.LimitRange
import ContainerStreams.Object.Basic
import ContainerStreams.Object.Stream
import ContainerStreams.Proofs.Json.Records
import ContainerStreams.Proofs.Time.RoundTrip
import ContainerStreams.Status

set_option autoImplicit false

namespace ContainerStreams

open Json (ReadsBack Restores record?_object restores_bool restores_int64 restores_nullable_int64
  restores_nullable_text restores_text)
open Json.Record (optional?_of_missing)

theorem SortedMap.eq_empty_of_isEmpty {α : Type} {map : SortedMap α}
    (none : map.isEmpty = true) : map = {} := by
  obtain ⟨entries, ascending⟩ := map
  obtain rfl : entries = [] := List.isEmpty_iff.mp none
  rfl

/-- What is left out of the written form is restored by its default. -/
theorem ObjectMeta.restores : Restores ofJson? toJson where
  plain object := by
    refine .object _ fun member listed => ?_
    rcases List.mem_append.mp listed with annotations | others
    · split at annotations
      · cases annotations
      · obtain rfl := List.mem_singleton.mp annotations
        exact restores_text.map.plain _
    · rcases List.mem_cons.mp others with rfl | project
      · exact .string _
      · split at project
        · cases project
        · obtain rfl := List.mem_singleton.mp project
          exact .string _
  read_write object := by
    obtain ⟨name, project, annotations⟩ := object
    rw [ofJson?, toJson]
    by_cases unannotated : annotations.isEmpty = true
    · obtain rfl := SortedMap.eq_empty_of_isEmpty unannotated
      by_cases unplaced : project.isEmpty = true
      · obtain rfl := String.isEmpty_iff.mp unplaced
        rw [record?_object ["name"] rfl (by decide) (by decide), restores_text.optional rfl,
          optional?_of_missing rfl, optional?_of_missing rfl]
        rfl
      · simp only [unplaced]
        rw [record?_object ["name", "namespace"] rfl (by decide) (by decide),
          restores_text.optional rfl, restores_text.optional rfl, optional?_of_missing rfl]
        rfl
    · by_cases unplaced : project.isEmpty = true
      · obtain rfl := String.isEmpty_iff.mp unplaced
        simp only [unannotated]
        rw [record?_object ["annotations", "name"] rfl (by decide) (by decide),
          restores_text.optional rfl, optional?_of_missing rfl, restores_text.map.optional rfl]
        rfl
      · simp only [unannotated, unplaced]
        rw [record?_object ["annotations", "name", "namespace"] rfl (by decide) (by decide),
          restores_text.optional rfl, restores_text.optional rfl, restores_text.map.optional rfl]
        rfl

theorem ImageLayer.restores : Restores ofJson? toJson where
  plain layer := .record ⟨.string _, .string _, .integer _ _⟩
  read_write layer := by
    rw [ofJson?, toJson, record?_object ["mediaType", "name", "size"] rfl (by decide) (by decide),
      restores_text.required rfl, restores_int64.optional rfl, restores_text.optional rfl]
    rfl

theorem ImageManifest.restores : Restores ofJson? toJson where
  plain manifest := .record ⟨.string _, .string _, .string _, .string _⟩
  read_write manifest := by
    rw [ofJson?, toJson,
      record?_object ["architecture", "digest", "mediaType", "os"] rfl (by decide) (by decide),
      restores_text.required rfl, restores_text.optional rfl, restores_text.optional rfl,
      restores_text.optional rfl]
    rfl

theorem Image.restores : Restores ofJson? toJson where
  plain image := .record ⟨ImageLayer.restores.list.plain _, .string _,
    ImageManifest.restores.list.plain _, .string _, ObjectMeta.restores.plain _⟩
  read_write image := by
    rw [ofJson?, toJson,
      record?_object ["dockerImageLayers", "dockerImageManifestMediaType", "dockerImageManifests",
        "dockerImageReference", "metadata"] rfl (by decide) (by decide),
      ObjectMeta.restores.optional rfl, restores_text.optional rfl, restores_text.optional rfl,
      ImageLayer.restores.list.optional rfl, ImageManifest.restores.list.optional rfl]
    rfl

theorem ImportPolicy.restores : Restores ofJson? toJson where
  plain policy := .record (.bool _)
  read_write policy := by
    rw [ofJson?, toJson, record?_object ["insecure"] rfl (by decide) (by decide),
      restores_bool.optional rfl]
    rfl

theorem TagReference.restores : Restores ofJson? toJson where
  plain reference := .record ⟨ImportPolicy.restores.plain _, .string _⟩
  read_write reference := by
    rw [ofJson?, toJson, record?_object ["importPolicy", "name"] rfl (by decide) (by decide),
      restores_text.required rfl, ImportPolicy.restores.optional rfl]
    rfl

theorem StreamSpec.restores : Restores ofJson? toJson where
  plain spec := .record (TagReference.restores.list.plain _)
  read_write spec := by
    rw [ofJson?, toJson, record?_object ["tags"] rfl (by decide) (by decide),
      TagReference.restores.list.optional rfl]
    rfl

theorem Instant.restores : Restores ofJson? toJson where
  plain _ := .string _
  read_write instant := by
    rw [ofJson?, toJson, Json.text?, Option.bind_some, Rfc3339.parse?_render]

theorem TagEvent.restores : Restores ofJson? toJson where
  plain event := .record ⟨Instant.restores.plain _, .string _, .integer _ _, .string _⟩
  read_write event := by
    rw [ofJson?, toJson,
      record?_object ["created", "dockerImageReference", "generation", "image"] rfl (by decide) (by
        decide), Instant.restores.required rfl, restores_text.required rfl,
      restores_text.required rfl, restores_int64.optional rfl]
    rfl

theorem TagHistory.restores : Restores ofJson? toJson where
  plain history := .record ⟨TagEvent.restores.list.plain _, .string _⟩
  read_write history := by
    rw [ofJson?, toJson, record?_object ["items", "tag"] rfl (by decide) (by decide),
      restores_text.required rfl, TagEvent.restores.list.optional rfl]
    rfl

theorem StreamStatus.restores : Restores ofJson? toJson where
  plain status := .record ⟨.string _, .string _, TagHistory.restores.list.plain _⟩
  read_write status := by
    rw [ofJson?, toJson,
      record?_object ["dockerImageRepository", "publicDockerImageRepository", "tags"] rfl (by
        decide) (by decide), restores_text.optional rfl, restores_text.optional rfl,
      TagHistory.restores.list.optional rfl]
    rfl

theorem ImageStream.restores : Restores ofJson? toJson where
  plain stream := .record ⟨ObjectMeta.restores.plain _, StreamSpec.restores.plain _,
    StreamStatus.restores.plain _⟩
  read_write stream := by
    rw [ofJson?, toJson, record?_object ["metadata", "spec", "status"] rfl (by decide) (by decide),
      ObjectMeta.restores.optional rfl, StreamSpec.restores.optional rfl,
      StreamStatus.restores.optional rfl]
    rfl

theorem StreamMapping.restores : Restores ofJson? toJson where
  plain mapping := .record ⟨Image.restores.plain _, ObjectMeta.restores.plain _, .string _⟩
  read_write mapping := by
    rw [ofJson?, toJson, record?_object ["image", "metadata", "tag"] rfl (by decide) (by decide),
      ObjectMeta.restores.required rfl, Image.restores.required rfl, restores_text.required rfl]
    rfl

theorem LayerData.restores : Restores ofJson? toJson where
  plain data := .record ⟨.string _, restores_nullable_int64.plain _⟩
  read_write data := by
    rw [ofJson?, toJson, record?_object ["mediaType", "size"] rfl (by decide) (by decide),
      restores_nullable_int64.optional rfl, restores_text.optional rfl]
    rfl

theorem BlobReferences.restores : Restores ofJson? toJson where
  plain references := .record ⟨restores_nullable_text.plain _, .bool _, restores_text.list.plain _,
    restores_text.list.plain _⟩
  read_write references := by
    rw [ofJson?, toJson,
      record?_object ["config", "imageMissing", "layers", "manifests"] rfl (by decide) (by decide),
      restores_bool.optional rfl, restores_text.list.optional rfl,
      restores_nullable_text.optional rfl, restores_text.list.optional rfl]
    rfl

theorem StreamLayers.restores : Restores ofJson? toJson where
  plain layers := .record ⟨LayerData.restores.map.plain _, BlobReferences.restores.map.plain _,
    ObjectMeta.restores.plain _⟩
  read_write layers := by
    rw [ofJson?, toJson, record?_object ["blobs", "images", "metadata"] rfl (by decide) (by decide),
      ObjectMeta.restores.optional rfl, LayerData.restores.map.optional rfl,
      BlobReferences.restores.map.optional rfl]
    rfl

theorem Secret.restores : Restores ofJson? toJson where
  plain secret := .record ⟨restores_text.map.plain _, ObjectMeta.restores.plain _, .string _⟩
  read_write secret := by
    rw [ofJson?, toJson, record?_object ["data", "metadata", "type"] rfl (by decide) (by decide),
      ObjectMeta.restores.optional rfl, restores_text.optional rfl, restores_text.map.optional rfl]
    rfl

theorem SecretList.restores : Restores ofJson? toJson where
  plain list := .record (Secret.restores.list.plain _)
  read_write list := by
    rw [ofJson?, toJson, record?_object ["items"] rfl (by decide) (by decide),
      Secret.restores.list.optional rfl]
    rfl

theorem LimitRangeItem.restores : Restores ofJson? toJson where
  plain item := .record ⟨restores_text.map.plain _, restores_text.map.plain _, .string _⟩
  read_write item := by
    rw [ofJson?, toJson, record?_object ["max", "min", "type"] rfl (by decide) (by decide),
      restores_text.required rfl, restores_text.map.optional rfl, restores_text.map.optional rfl]
    rfl

theorem LimitRangeSpec.restores : Restores ofJson? toJson where
  plain spec := .record (LimitRangeItem.restores.list.plain _)
  read_write spec := by
    rw [ofJson?, toJson, record?_object ["limits"] rfl (by decide) (by decide),
      LimitRangeItem.restores.list.optional rfl]
    rfl

theorem LimitRange.restores : Restores ofJson? toJson where
  plain range := .record ⟨ObjectMeta.restores.plain _, LimitRangeSpec.restores.plain _⟩
  read_write range := by
    rw [ofJson?, toJson, record?_object ["metadata", "spec"] rfl (by decide) (by decide),
      ObjectMeta.restores.optional rfl, LimitRangeSpec.restores.optional rfl]
    rfl

theorem LimitRangeList.restores : Restores ofJson? toJson where
  plain list := .record (LimitRange.restores.list.plain _)
  read_write list := by
    rw [ofJson?, toJson, record?_object ["items"] rfl (by decide) (by decide),
      LimitRange.restores.list.optional rfl]
    rfl

theorem StatusDetails.restores : Restores ofJson? toJson where
  plain details := .record ⟨.string _, .string _⟩
  read_write details := by
    rw [ofJson?, toJson, record?_object ["kind", "name"] rfl (by decide) (by decide),
      restores_text.optional rfl, restores_text.optional rfl]
    rfl

theorem StatusReason.restores : Restores ofJson? toJson where
  plain _ := .string _
  read_write reason := congrArg some (ofName_name reason)

theorem ContentDigest.restores : Restores ofJson? toJson where
  plain _ := .string _
  read_write := ofChars?_text

/-- Reading undoes writing for all objects, whatever characters, numbers and instants they hold. -/
theorem objects_are_read_back :
    ReadsBack ObjectMeta.ofJson? ObjectMeta.toJson ∧
    ReadsBack ImageStream.ofJson? ImageStream.toJson ∧
    ReadsBack TagEvent.ofJson? TagEvent.toJson ∧
    ReadsBack Image.ofJson? Image.toJson ∧
    ReadsBack StreamMapping.ofJson? StreamMapping.toJson ∧
    ReadsBack StreamLayers.ofJson? StreamLayers.toJson ∧
    ReadsBack Secret.ofJson? Secret.toJson ∧
    ReadsBack SecretList.ofJson? SecretList.toJson ∧
    ReadsBack LimitRangeList.ofJson? LimitRangeList.toJson ∧
    ReadsBack StatusReason.ofJson? StatusReason.toJson ∧
    ReadsBack StatusDetails.ofJson? StatusDetails.toJson ∧
    ReadsBack ContentDigest.ofJson? ContentDigest.toJson :=
  ⟨ObjectMeta.restores.readsBack, ImageStream.restores.readsBack, TagEvent.restores.readsBack,
    Image.restores.readsBack, StreamMapping.restores.readsBack, StreamLayers.restores.readsBack,
    Secret.restores.readsBack, SecretList.restores.readsBack, LimitRangeList.restores.readsBack,
    StatusReason.restores.readsBack, StatusDetails.restores.readsBack,
    ContentDigest.restores.readsBack⟩

end ContainerStreams
