import ContainerStreams.Json.Basic
import ContainerStreams.Proofs.Json.Values

set_option autoImplicit false

namespace ContainerStreams

namespace Json

def ofText? {α : Type} (read : Json → Option α) (text : String) : Option α :=
  (parse? text).bind read

def toText {α : Type} (write : α → Json) (value : α) : String :=
  (write value).render

/-- A value is read back from its text, and a text that has been read and written again is not
changed by a second time. -/
structure ReadsBack {α : Type} (read : Json → Option α) (write : α → Json) : Prop where
  restored : ∀ value, ofText? read (toText write value) = some value
  settled : ∀ text written, (ofText? read text).map (toText write) = some written →
    (ofText? read written).map (toText write) = some written

/-- What has been written for a value is readable as text, and read as the value. -/
structure Restores {α : Type} (read : Json → Option α) (write : α → Json) : Prop where
  plain : ∀ value, (write value).Plain
  read_write : ∀ value, read (write value) = some value

theorem Plain.record {members : List (String × Json)}
    (plain : members.Forall fun member => member.2.Plain) : (Json.object members).Plain :=
  .object members (List.forall_iff_forall_mem.mp plain)

theorem restores_bool : Restores bool? .bool :=
  ⟨.bool, fun _ => rfl⟩

theorem restores_text : Restores text? .string :=
  ⟨.string, fun _ => rfl⟩

theorem int?_ofInt (n : Int) : (ofInt n).int? = some n := by
  cases n with
  | ofNat n => rfl
  | negSucc n =>
    rw [ofInt, decide_eq_true (Int.negSucc_lt_zero n)]
    rfl

theorem restores_int64 : Restores int64? fun n => .ofInt n.toInt where
  plain n := .integer _ _
  read_write n := by
    rw [int64?, int?_ofInt, Option.bind_eq_bind, Option.bind_some,
      if_pos ⟨n.minValue_le_toInt, n.toInt_le⟩, Int64.ofInt_toInt]

theorem Restores.readsBack {α : Type} {read : Json → Option α} {write : α → Json}
    (restores : Restores read write) : ReadsBack read write := by
  have restored : ∀ value, ofText? read (toText write value) = some value := by
    intro value
    rw [ofText?, toText, parse?_render (restores.plain value), Option.bind_some,
      restores.read_write]
  refine ⟨restored, ?_⟩
  intro text written rewritten
  obtain ⟨value, -, rfl⟩ := Option.map_eq_some_iff.mp rewritten
  rw [restored value, Option.map_some]

section Combined

variable {α : Type} {read : Json → Option α} {write : α → Json} (restores : Restores read write)
include restores

theorem Restores.list : Restores (list? read) (ofList write) where
  plain values := by
    refine .array _ fun item member => ?_
    obtain ⟨value, -, rfl⟩ := List.mem_map.mp member
    exact restores.plain value
  read_write := mapM_map read write restores.read_write

/-- Null must not stand for a value that is there. -/
theorem Restores.nullable (present : ∀ value, write value ≠ .null) :
    Restores (nullable? read) (ofOption write) where
  plain value := by
    cases value with
    | none => exact .null
    | some value => exact restores.plain value
  read_write value := by
    cases value with
    | none => rfl
    | some value =>
      have there := present value
      rw [ofOption, nullable?, restores.read_write]
      · rfl
      · exact there

theorem Restores.map : Restores (map? read) (ofMap write) where
  plain map := by
    refine .object _ fun member listed => ?_
    obtain ⟨entry, -, rfl⟩ := List.mem_map.mp listed
    exact restores.plain entry.2
  read_write map := by
    have entries := mapM_map
      (fun member : String × Json => (read member.2).map fun value => (member.1, value))
      (fun entry : String × α => (entry.1, write entry.2))
      (fun entry => by rw [restores.read_write]; rfl) map.entries
    rw [ofMap, map?, entries]
    exact congrArg some map.ofList_entries

section Fields

variable {record : Record} {name : String} {value : α}
  (found : record.fields.lookup name = some (write value))
include found

theorem Restores.required : record.required? name read = some value := by
  rw [Record.required?, found, Option.bind_some, restores.read_write]

theorem Restores.optional (missing : α) : record.optional? name read missing = some value := by
  rw [Record.optional?, found]
  exact restores.read_write value

end Fields

end Combined

theorem restores_nullable_text : Restores (nullable? text?) (ofOption .string) :=
  restores_text.nullable nofun

theorem restores_nullable_int64 :
    Restores (nullable? int64?) (ofOption fun n : Int64 => .ofInt n.toInt) :=
  restores_int64.nullable nofun

theorem Record.optional?_of_missing {α : Type} {record : Record} {name : String}
    (missing : record.fields.lookup name = none) (read : Json → Option α) (value : α) :
    record.optional? name read value = some value := by
  rw [Record.optional?, missing]

/-- An object is read as a record with its members for fields if it has no others than the record,
and none twice. -/
theorem record?_object {α : Type} {names : List String} (keys : List String)
    {members : List (String × Json)} (listed : members.map (·.1) = keys)
    (known : keys.all names.contains = true) (distinct : keys.Nodup) (read : Record → Option α) :
    ((Json.object members).record? names >>= read) = read ⟨members⟩ := by
  have whole : (members.filter fun member => names.contains member.1) = members := by
    apply List.filter_eq_self.mpr
    intro member present
    rw [← listed] at known
    exact List.all_eq_true.mp known _ (List.mem_map_of_mem present)
  simp only [record?, whole, listed, distinct, if_true]
  rfl

end Json

end ContainerStreams
