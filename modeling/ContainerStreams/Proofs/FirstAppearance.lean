set_option autoImplicit false

namespace ContainerStreams

variable {α : Type} [BEq α] [LawfulBEq α]

theorem eraseDups_concat (items : List α) (item : α) :
    (items ++ [item]).eraseDups =
      if items.contains item then items.eraseDups else items.eraseDups ++ [item] := by
  rw [List.eraseDups_append, List.removeAll, List.filter_cons, List.elem_eq_contains]
  by_cases known : items.contains item = true
  · rw [if_pos known, known]
    exact List.append_nil _
  · rw [if_neg known, Bool.eq_false_iff.mpr known]
    rfl

theorem eraseDups_filter (keep : α → Bool) (items : List α) :
    (items.filter keep).eraseDups = items.eraseDups.filter keep := by
  cases items with
  | nil => rfl
  | cons item rest =>
    have later := eraseDups_filter keep (rest.filter fun other => !other == item)
    rw [List.filter_filter] at later
    rw [List.eraseDups_cons]
    by_cases kept : keep item = true
    · rw [List.filter_cons_of_pos kept, List.filter_cons_of_pos kept, List.eraseDups_cons,
        List.filter_filter, ← later]
      simp only [Bool.and_comm]
    · -- What is dropped has no repetitions among what is kept.
      have apart : (rest.filter fun other => keep other && !other == item) = rest.filter keep := by
        apply List.filter_congr
        intro other _
        cases same : other == item with
        | false => simp
        | true => simp [eq_of_beq same, kept]
      rw [List.filter_cons_of_neg kept, List.filter_cons_of_neg kept, ← later, apart]
termination_by items.length
decreasing_by
  have := List.length_filter_le (fun other => !other == item) rest
  simp only [List.length_cons]
  omega

theorem nodup_eraseDups (items : List α) : items.eraseDups.Nodup := by
  induction size : items.length using Nat.strongRecOn generalizing items with
  | ind length ih =>
    cases items with
    | nil => exact List.nodup_nil
    | cons item rest =>
      have shorter := List.length_filter_le (fun other => !other == item) rest
      rw [List.length_cons] at size
      rw [List.eraseDups_cons, List.nodup_cons]
      refine ⟨?_, ih _ (by omega) _ rfl⟩
      simp [List.mem_eraseDups]

end ContainerStreams
