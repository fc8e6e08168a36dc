import GraphqlRequests.Proofs.RequestModule.Classes

/-!
# Annotations

The annotation of an attribute has the lists of the reference it stands for, and is optional where
the reference is nullable, also on the outside if the attribute may be omitted. Apart from stacked
non-null layers, a reference can be told from its annotation.
-/

namespace GraphqlRequests

/-! ### Layers of an annotation -/

namespace CodeRef

variable {α β : Type}

@[simp] theorem lists_map (f : α → β) (code : CodeRef α) : (code.map f).lists = code.lists := by
  induction code with
  | named => rfl
  | list _ ih => exact congrArg (· + 1) ih
  | optional _ ih => exact ih

@[simp] theorem isOptional_map (f : α → β) (code : CodeRef α) :
    (code.map f).isOptional = code.isOptional := by
  cases code <;> rfl

theorem element?_map (f : α → β) (code : CodeRef α) (depth : Nat) :
    (code.map f).element? depth = (code.element? depth).map (CodeRef.map f) := by
  induction code generalizing depth with
  | named => cases depth <;> rfl
  | list _ ih | optional _ ih =>
    cases depth with
    | zero => rfl
    | succ depth => exact ih _

theorem Proper.map {code : CodeRef α} (proper : code.Proper) (f : α → β) : (code.map f).Proper := by
  induction code with
  | named => trivial
  | list _ ih => exact ih proper
  | optional _ ih => exact ⟨by rw [isOptional_map, proper.1], ih proper.2⟩

@[simp] theorem lists_orAbsent (code : CodeRef α) : code.orAbsent.lists = code.lists := by
  cases code <;> rfl

@[simp] theorem isOptional_orAbsent (code : CodeRef α) : code.orAbsent.isOptional = true := by
  cases code <;> rfl

theorem element?_orAbsent (code : CodeRef α) (depth : Nat) :
    code.orAbsent.element? (depth + 1) = code.element? (depth + 1) := by
  cases code <;> rfl

theorem Proper.orAbsent {code : CodeRef α} (proper : code.Proper) : code.orAbsent.Proper := by
  cases code with
  | named | list => exact ⟨rfl, proper⟩
  | optional => exact proper

theorem map_injective {f : α → β} {code other : CodeRef α}
    (inside : code.innermost = other.innermost) (same : code.map f = other.map f) :
    code = other := by
  induction code generalizing other with
  | named text =>
    cases other with
    | named second => exact congrArg named inside
    | list | optional => cases same
  | list item ih =>
    cases other with
    | list second => exact congrArg list (ih inside (CodeRef.list.inj same))
    | named | optional => cases same
  | optional inner ih =>
    cases other with
    | optional second => exact congrArg optional (ih inside (CodeRef.optional.inj same))
    | named | list => cases same

theorem written_list (item : CodeRef String) :
    item.list.written = "_typing.List[" ++ item.written ++ "]" := rfl

theorem written_optional (inner : CodeRef String) :
    inner.optional.written = "_typing.Optional[" ++ inner.written ++ "]" := rfl

theorem bracket_mem_written (code : CodeRef String) :
    '[' ∈ code.list.written.toList ∧ '[' ∈ code.optional.written.toList := by
  simp only [written_list, written_optional, String.toList_append, List.mem_append]
  exact ⟨.inl (.inl (by decide)), .inl (.inl (by decide))⟩

theorem written_list_ne_optional (code other : CodeRef String) :
    code.list.written ≠ other.optional.written := by
  intro same
  have chars := congrArg (fun text => text.toList.take 9) same
  simp only [written_list, written_optional, String.toList_append, List.append_assoc] at chars
  rw [List.take_append_of_le_length (by decide), List.take_append_of_le_length (by decide)] at chars
  exact absurd chars (by decide)

theorem written_injective {code other : CodeRef String} (plain : '[' ∉ code.innermost.toList)
    (free : '[' ∉ other.innermost.toList) (same : code.written = other.written) : code = other := by
  -- A bracket tells layers from names, and what stands before it tells them from each other.
  induction code generalizing other with
  | named text =>
    rw [innermost, show text = other.written from same] at plain
    cases other with
    | named second => exact congrArg named same
    | list second => exact absurd (bracket_mem_written second).1 plain
    | optional second => exact absurd (bracket_mem_written second).2 plain
  | list item ih =>
    cases other with
    | named text =>
      rw [innermost, show text = item.list.written from same.symm] at free
      exact absurd (bracket_mem_written item).1 free
    | list second =>
      have inner := String.append_right_inj _ |>.mp (String.append_left_inj _ |>.mp same)
      exact congrArg list (ih plain free inner)
    | optional second => exact absurd same (written_list_ne_optional item second)
  | optional item ih =>
    cases other with
    | named text =>
      rw [innermost, show text = item.optional.written from same.symm] at free
      exact absurd (bracket_mem_written item).2 free
    | list second => exact absurd same.symm (written_list_ne_optional second item)
    | optional second =>
      have inner := String.append_right_inj _ |>.mp (String.append_left_inj _ |>.mp same)
      exact congrArg optional (ih plain free inner)

end CodeRef

/-- Stacked non-null layers are all that the code's view loses. -/
theorem TypeRef.toCode_eq_iff {α : Type} {ref other : TypeRef α} :
    ref.toCode = other.toCode ↔ ref.collapse = other.collapse := by
  rw [← toSchema_toCode, ← toSchema_toCode]
  refine ⟨congrArg CodeRef.toSchema, fun same => ?_⟩
  rw [← CodeRef.toCode_toSchema (toCode_proper ref).1, same,
    CodeRef.toCode_toSchema (toCode_proper other).1]

namespace RequestModule

/-! ### References and their annotations -/

/-- The annotation has the lists of the reference and is optional just where that is nullable, on
the outside also if the value may be omitted. -/
structure Mirrors (registry : ScalarRegistry) (type : TypeRef (NamedRef String)) (mayOmit : Bool)
    (code : CodeRef String) : Prop where
  atom : code.innermost = match type.innermost.kind with
    | .scalar => (registry.mappingOf type.innermost.name).typeText
    | .interface | .union => "_typing.Any"
    | .object | .enum | .inputObject => type.innermost.name
  lists : code.lists = type.lists
  outside : code.isOptional = (type.isNullable || mayOmit)
  inside : ∀ depth, (code.element? (depth + 1)).map CodeRef.isOptional
    = (type.element? (depth + 1)).map TypeRef.isNullable
  proper : code.Proper

variable {registry : ScalarRegistry} {type other : TypeRef (NamedRef String)}

theorem element?_typeFor (mayOmit : Bool) (depth : Nat) :
    (typeFor registry type mayOmit).element? (depth + 1)
      = (type.toCode.map (RequestModule.atom registry)).element? (depth + 1) := by
  cases mayOmit with
  | false => rfl
  | true =>
    rw [typeFor, if_pos rfl, CodeRef.element?_map, CodeRef.element?_orAbsent, CodeRef.element?_map]

theorem mirrors_typeFor (registry : ScalarRegistry) (type : TypeRef (NamedRef String))
    (mayOmit : Bool) : Mirrors registry type mayOmit (typeFor registry type mayOmit) := by
  have same := TypeRef.sameType_toCode type
  obtain ⟨proper, nullable⟩ := TypeRef.toCode_proper type
  refine ⟨?_, ?_, ?_, fun depth => ?_, ?_⟩
  · rw [innermost_typeFor, RequestModule.atom]
    cases type.innermost.kind <;> rfl
  · rw [← same.lists]
    cases mayOmit <;> simp [typeFor]
  · cases mayOmit <;> simp [typeFor, nullable]
  · rw [element?_typeFor, CodeRef.element?_map, Option.map_map, ← same.optional]
    simp only [Function.comp_def, CodeRef.isOptional_map]
  · cases mayOmit with
    | false => exact proper.map _
    | true => exact proper.orAbsent.map _

theorem written_typeFor_eq_iff (inside : type.innermost = other.innermost)
    (plain : '[' ∉ (RequestModule.atom registry type.innermost).toList) :
    (typeFor registry type false).written = (typeFor registry other false).written ↔
      type.collapse = other.collapse := by
  rw [← TypeRef.toCode_eq_iff]
  refine ⟨fun same => ?_, fun same => by rw [typeFor, same]; rfl⟩
  have layers := CodeRef.written_injective (by rwa [innermost_typeFor])
    (by rwa [innermost_typeFor, ← inside]) same
  refine CodeRef.map_injective ?_ layers
  rw [TypeRef.innermost_toCode, TypeRef.innermost_toCode, inside]

/-- The attribute of a field, or of an argument or input field, and the reference it is for. -/
inductive StandsFor (registry : ScalarRegistry) :
    TypeRef (NamedRef String) → Bool → Attribute → Prop where
  | field {field : Field String} {mayOmit : Bool} {made : Attribute}
      (held : fieldAttribute registry mayOmit field = .ok made) :
      StandsFor registry field.type mayOmit made
  | input {value : InputValue String} {made : Attribute}
      (held : inputAttribute registry value = .ok made) :
      StandsFor registry value.type (value.default ≠ .null) made

theorem StandsFor.type_eq {mayOmit : Bool} {made : Attribute}
    (stands : StandsFor registry type mayOmit made) :
    made.type = typeFor registry type mayOmit := by
  cases stands with
  | field held =>
    rw [fieldAttribute_eq] at held
    cases held
    rfl
  | input held =>
    rw [inputAttribute_eq] at held
    cases held
    rfl

/-- Attributes are made for all fields and arguments. Their annotations mirror what may be null, and
they must be given where the annotation is not optional on the outside. Annotations of references
that end in the same type, whose text has no bracket, are the same only where the references are,
stacked non-null layers aside. -/
theorem annotations_mirror_references (registry : ScalarRegistry) :
    (∀ mayOmit (field : Field String), ∃ made, fieldAttribute registry mayOmit field = .ok made) ∧
    (∀ value : InputValue String, ∃ made, inputAttribute registry value = .ok made) ∧
    (∀ type mayOmit made, StandsFor registry type mayOmit made →
      Mirrors registry type mayOmit made.type ∧
      (made.required = true ↔ ∀ inner, made.type ≠ .optional inner)) ∧
    ∀ type other made second, StandsFor registry type false made →
      StandsFor registry other false second → type.innermost = other.innermost →
      '[' ∉ (RequestModule.atom registry type.innermost).toList →
      (made.type.written = second.type.written ↔ type.collapse = other.collapse) := by
  refine ⟨fun mayOmit field => ⟨_, fieldAttribute_eq registry mayOmit field⟩,
    fun value => ⟨_, inputAttribute_eq registry value⟩, ?_, ?_⟩
  · intro type mayOmit made stands
    refine ⟨stands.type_eq ▸ mirrors_typeFor registry type mayOmit, ?_⟩
    rw [Attribute.required]
    cases made.type <;> simp [CodeRef.isOptional]
  · intro type other made second stands stood inside plain
    rw [stands.type_eq, stood.type_eq]
    exact written_typeFor_eq_iff inside plain

theorem annotations_mirror_references_of_ints :
    let counts : Field String :=
      { name := "counts", type := .list (.nonNull (.named ⟨.scalar, "Int"⟩)) }
    let gaps : Field String := { name := "gaps", type := .list (.named ⟨.scalar, "Int"⟩) }
    ∃ made second, fieldAttribute .default false counts = .ok made ∧
      fieldAttribute .default false gaps = .ok second ∧ made.type.innermost = "int" ∧
      made.type.lists = 1 ∧ made.required = false ∧ made.type.written ≠ second.type.written := by
  intro counts gaps
  obtain ⟨fields, -, mirrored, told⟩ := annotations_mirror_references .default
  obtain ⟨made, holds⟩ := fields false counts
  obtain ⟨second, held⟩ := fields false gaps
  obtain ⟨mirrors, required⟩ := mirrored _ _ made (.field holds)
  refine ⟨made, second, holds, held, mirrors.atom.trans (by decide), mirrors.lists, ?_, ?_⟩
  · obtain ⟨inner, optional⟩ : ∃ inner, made.type = .optional inner := by
      have outside := mirrors.outside
      cases type : made.type with
      | optional inner => exact ⟨inner, rfl⟩
      | named | list => simp [type, CodeRef.isOptional, counts, TypeRef.isNullable] at outside
    exact Bool.eq_false_iff.mpr fun given => required.mp given inner optional
  · intro same
    have collapsed := (told _ _ made second (.field holds) (.field held) rfl (by decide)).mp same
    exact absurd collapsed (by decide)

end RequestModule

end GraphqlRequests
