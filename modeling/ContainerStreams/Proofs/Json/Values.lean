import ContainerStreams.Json.Parser
import ContainerStreams.Proofs.Json.Tokens

/-!
Reading the values that have been written. The machine that reads keeps on its stack what it has of
the arrays and objects around a value, and has put the whole value there when the value's own tokens
are used up. Main statement: a value is read back from its text.
-/

set_option autoImplicit false

namespace ContainerStreams.Json

/-- A value whose text says everything about it: a number is an integer, and all is readable. -/
inductive Plain : Json → Prop
  | null : Plain .null
  | bool (value : Bool) : Plain (.bool value)
  | integer (negative : Bool) (magnitude : Nat) : Plain (.number (.integer negative magnitude))
  | string (text : String) : Plain (.string text)
  | array (items : List Json) (plain : ∀ item ∈ items, Plain item) : Plain (.array items)
  | object (members : List (String × Json)) (plain : ∀ member ∈ members, Plain member.2) :
    Plain (.object members)

theorem mapM_map {α β : Type} (read : β → Option α) (write : α → β)
    (back : ∀ value, read (write value) = some value) (values : List α) :
    (values.map write).mapM read = some values := by
  induction values with
  | nil => rfl
  | cons value values ih => simp [List.mapM_cons, back, ih]

section Spelling

open Token (Spelled)

theorem itemTokens_cons_cons (item next : Json) (items : List Json) :
    itemTokens (item :: next :: items) = item.tokens ++ .comma :: itemTokens (next :: items) := rfl

theorem exists_itemTokens_eq_append (item : Json) (items : List Json) :
    ∃ others, itemTokens (item :: items) = item.tokens ++ others := by
  cases items with
  | nil => exact ⟨[], (List.append_nil _).symm⟩
  | cons next items => exact ⟨_, itemTokens_cons_cons item next items⟩

theorem memberTokens_cons_cons (member next : String × Json) (members : List (String × Json)) :
    memberTokens (member :: next :: members) =
      .string (some member.1) :: .colon :: member.2.tokens ++
        .comma :: memberTokens (next :: members) := rfl

theorem spelled_nil : Spelled [] := ⟨by simp, .nil⟩

theorem spelled_singleton (token : Token) (exact : token.isExact = true) : Spelled [token] :=
  ⟨by simpa using exact, .singleton token⟩

theorem spelled_itemTokens (items : List Json) (spelled : ∀ item ∈ items, Spelled item.tokens) :
    Spelled (itemTokens items) := by
  induction items with
  | nil => exact spelled_nil
  | cons item items ih =>
    have first := spelled item (by simp)
    cases items with
    | nil => exact first
    | cons next items =>
      have later := ih fun other member => spelled other (List.mem_cons_of_mem _ member)
      exact first.join .comma later rfl rfl

theorem spelled_memberTokens (members : List (String × Json))
    (spelled : ∀ member ∈ members, Spelled member.2.tokens) : Spelled (memberTokens members) := by
  induction members with
  | nil => exact spelled_nil
  | cons member members ih =>
    obtain ⟨key, value⟩ := member
    have first : Spelled (.string (some key) :: .colon :: value.tokens) :=
      spelled_nil.join _ (spelled_nil.join .colon (spelled (key, value) (by simp)) rfl rfl) rfl rfl
    cases members with
    | nil => exact first
    | cons next members =>
      have later := ih fun other member => spelled other (List.mem_cons_of_mem _ member)
      exact first.join .comma later rfl rfl

/-- Between the values of an array or an object, and around them, there are marks. -/
theorem Plain.spelled {value : Json} (plain : value.Plain) : Spelled value.tokens := by
  induction plain with
  | null => exact spelled_singleton _ rfl
  | bool value => exact spelled_singleton _ rfl
  | integer negative magnitude => exact spelled_singleton _ rfl
  | string text => exact spelled_singleton _ rfl
  | array items _ ih =>
    have inner := (spelled_itemTokens items ih).join .closeBracket spelled_nil rfl rfl
    exact spelled_nil.join .openBracket inner rfl rfl
  | object members _ ih =>
    have inner := (spelled_memberTokens members ih).join .closeBrace spelled_nil rfl rfl
    exact spelled_nil.join .openBrace inner rfl rfl

end Spelling

namespace Parser

theorem run_cons (state : State) (token : Token) (tokens : List Token) :
    run state (token :: tokens) = (step state token).bind fun next => run next tokens := rfl

/-- No value begins with the end of an array, so the first item is like any other. -/
theorem run_firstItem (value : Json) (stack : List Frame) (rest : List Token) :
    run (.firstItem stack) (value.tokens ++ rest) =
      run (.value (.array [] :: stack)) (value.tokens ++ rest) := by
  cases value <;> rfl

theorem run_firstKey (member : String × Json) (members : List (String × Json))
    (stack : List Frame) (rest : List Token) :
    run (.firstKey stack) (memberTokens (member :: members) ++ rest) =
      run (.key [] stack) (memberTokens (member :: members) ++ rest) := by
  cases members <;> rfl

def kept (members : List (String × Json)) : Members :=
  (members.map fun member => (some member.1, member.2)).reverse

theorem kept_concat (members : List (String × Json)) (key : String) (value : Json) :
    kept (members ++ [(key, value)]) = (some key, value) :: kept members := by
  simp [kept]

theorem closeObject_kept (members : List (String × Json)) :
    closeObject (kept members) = .object members := by
  have read := mapM_map
    (fun member : Option String × Json => member.1.map fun key => (key, member.2))
    (fun member : String × Json => (some member.1, member.2)) (fun _ => rfl) members
  rw [closeObject, kept, List.reverse_reverse, read]

/-- What the machine does with a value, whatever is open around it and whatever follows. -/
def Reads (value : Json) : Prop :=
  ∀ stack rest, run (.value stack) (value.tokens ++ rest) = run (.complete value stack) rest

/-- The items that are still to come follow those that are done. -/
theorem run_items (items : List Json) (reads : ∀ item ∈ items, Reads item) (nonempty : items ≠ [])
    (done : List Json) (stack : List Frame) (rest : List Token) :
    run (.value (.array done :: stack)) (itemTokens items ++ .closeBracket :: rest) =
      run (.complete (.array (done.reverse ++ items)) stack) rest := by
  induction items generalizing done with
  | nil => exact absurd rfl nonempty
  | cons item items ih =>
    have first := reads item (by simp)
    cases items with
    | nil =>
      rw [itemTokens, first]
      simp [run_cons, step]
    | cons next items =>
      have later := ih (fun other member => reads other (List.mem_cons_of_mem _ member)) (by simp)
        (item :: done)
      rw [itemTokens_cons_cons, List.append_assoc, first, List.cons_append, run_cons]
      simpa [step] using later

theorem run_members (members : List (String × Json))
    (reads : ∀ member ∈ members, Reads member.2) (nonempty : members ≠ [])
    (done : List (String × Json)) (stack : List Frame) (rest : List Token) :
    run (.key (kept done) stack) (memberTokens members ++ .closeBrace :: rest) =
      run (.complete (.object (done ++ members)) stack) rest := by
  induction members generalizing done with
  | nil => exact absurd rfl nonempty
  | cons member members ih =>
    obtain ⟨key, value⟩ := member
    have first : Reads value := reads (key, value) (by simp)
    cases members with
    | nil =>
      simp only [memberTokens, List.cons_append, run_cons, step, Option.bind_some]
      rw [first, run_cons]
      simp only [step, Option.bind_some, ← kept_concat, closeObject_kept]
    | cons next members =>
      have later := ih (fun other member => reads other (List.mem_cons_of_mem _ member)) (by simp)
        (done ++ [(key, value)])
      simp only [memberTokens_cons_cons, List.cons_append, List.append_assoc, run_cons, step,
        Option.bind_some]
      rw [first, run_cons]
      simp only [step, Option.bind_some, ← kept_concat, later, List.append_assoc,
        List.singleton_append]

/-- By induction on the value, for any stack at once: an item is read with its array on the stack. -/
theorem reads_of_plain {value : Json} (plain : value.Plain) : Reads value := by
  induction plain with
  | null => exact fun _ _ => rfl
  | bool value => exact fun _ _ => rfl
  | integer negative magnitude => exact fun _ _ => rfl
  | string text => exact fun _ _ => rfl
  | array items _ ih =>
    intro stack rest
    cases items with
    | nil => rfl
    | cons item items =>
      obtain ⟨others, front⟩ := exists_itemTokens_eq_append item items
      have inside := run_items (item :: items) ih (by simp) [] stack rest
      rw [front, List.append_assoc] at inside
      rw [tokens, List.cons_append, List.cons_append, run_cons, List.append_assoc, front,
        List.append_assoc]
      exact (run_firstItem item stack _).trans inside
  | object members _ ih =>
    intro stack rest
    cases members with
    | nil => rfl
    | cons member members =>
      have inside := run_members (member :: members) ih (by simp) [] stack rest
      rw [tokens, List.cons_append, List.cons_append, run_cons, List.append_assoc]
      exact (run_firstKey member members stack _).trans inside

end Parser

theorem ofTokens?_tokens {value : Json} (plain : value.Plain) :
    ofTokens? value.tokens = some value := by
  have read := Parser.reads_of_plain plain [] []
  rw [List.append_nil] at read
  rw [ofTokens?, read]
  rfl

/-- A value is read back from its text. -/
theorem parse?_render {value : Json} (plain : value.Plain) : parse? value.render = some value := by
  rw [parse?, render, String.toList_ofList, Token.ofText?_flatMap_text plain.spelled,
    Option.bind_some, ofTokens?_tokens plain]

end ContainerStreams.Json
