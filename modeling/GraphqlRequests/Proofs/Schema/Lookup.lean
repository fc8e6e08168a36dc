import GraphqlRequests.Reach

/-!
# Look-up in a schema

What a field returns, wrappers aside: the type found under its innermost name. Two look-ups that
find object types of one name find the same type.
-/

namespace GraphqlRequests

variable {ν : Type}

theorem NamedType.object?_eq_some {type : NamedType ν} {object : ObjectType ν} :
    type.object? = some object ↔
      type.name = object.name ∧ type.description = object.description ∧
      type.body = .object object.fields object.interfaces := by
  obtain ⟨name, description, body⟩ := type
  obtain ⟨name', description', fields, interfaces⟩ := object
  cases body <;> simp [NamedType.object?]

theorem NamedType.object?_isSome {type : NamedType ν} :
    type.object?.isSome ↔ type.kind = .object := by
  obtain ⟨name, description, body⟩ := type
  cases body <;> simp [NamedType.object?, NamedType.kind, TypeBody.kind]

namespace Schema

variable [DecidableEq ν] [Name ν] {schema : Schema ν}

/-- The object type that a field returns, whatever stands around its name. -/
def returned? (schema : Schema ν) (field : Field ν) : Option (ObjectType ν) :=
  schema.object? field.type.innermost.name

/-- A field offends if no type is found under the name that it returns, or an interface or a union
is. Every text can be looked up by, so it is only found missing where the schema lacks it. -/
def offends (schema : Schema ν) (field : Field ν) : Bool :=
  !Name.isKey field.type.innermost.name ||
  match schema.type? field.type.innermost.name with
  | none => true
  | some type => type.kind.isAbstract

theorem mem_of_type? {name : ν} {type : NamedType ν} (found : schema.type? name = some type) :
    type ∈ schema.types :=
  List.mem_of_find?_eq_some found

theorem key_of_type? {name : ν} {type : NamedType ν} (found : schema.type? name = some type) :
    Name.key type.name = Name.key name := by
  simpa using List.find?_some found

theorem type?_name {name : ν} {type : NamedType ν} (found : schema.type? name = some type) :
    schema.type? type.name = some type := by
  rw [← found, type?, type?, find?, find?, key_of_type? found]

theorem object?_eq_some {name : ν} {object : ObjectType ν} :
    schema.object? name = some object ↔
      ∃ type, schema.type? name = some type ∧ type.object? = some object := by
  simp [object?, findObject?, type?, Option.bind_eq_some_iff]

theorem key_of_object? {name : ν} {object : ObjectType ν}
    (found : schema.object? name = some object) : Name.key object.name = Name.key name := by
  obtain ⟨type, here, whole⟩ := object?_eq_some.mp found
  rw [← (NamedType.object?_eq_some.mp whole).1, key_of_type? here]

theorem object?_name {name : ν} {object : ObjectType ν}
    (found : schema.object? name = some object) : schema.object? object.name = some object := by
  obtain ⟨type, here, whole⟩ := object?_eq_some.mp found
  rw [← (NamedType.object?_eq_some.mp whole).1]
  exact object?_eq_some.mpr ⟨type, type?_name here, whole⟩

theorem object?_unique {name other : ν} {first second : ObjectType ν}
    (found : schema.object? name = some first) (also : schema.object? other = some second)
    (named : first.name = second.name) : first = second :=
  Option.some.inj ((object?_name found).symm.trans (named ▸ object?_name also))

omit [DecidableEq ν] [Name ν] in
theorem mem_rootNames_of_root? {kind : OperationKind} {name : ν}
    (root : schema.root? kind = some name) : name ∈ schema.rootNames := by
  cases kind with
  | query => exact List.mem_cons.mpr (.inl (Option.some.inj root).symm)
  | mutation =>
    exact List.mem_cons_of_mem _ (List.mem_append_left _ (Option.mem_toList.mpr root))
  | subscription =>
    exact List.mem_cons_of_mem _ (List.mem_append_right _ (Option.mem_toList.mpr root))

theorem returnType_ok {field : Field ν} {type : NamedType ν} :
    schema.returnType field = .ok type ↔ Name.isKey field.type.innermost.name = true ∧
      schema.type? field.type.innermost.name = some type ∧ type.kind.isAbstract = false := by
  simp only [returnType]
  cases Name.isKey field.type.innermost.name with
  | false => simp
  | true =>
    cases schema.type? field.type.innermost.name with
    | none => simp
    | some found =>
      cases abstract : found.kind.isAbstract with
      | true => simp [abstract]; rintro rfl; exact abstract
      | false => simp [abstract]; rintro rfl; exact abstract

theorem offends_eq_false {field : Field ν} :
    schema.offends field = false ↔ ∃ type, schema.returnType field = .ok type := by
  simp only [returnType_ok, offends, Bool.or_eq_false_iff, Bool.not_eq_false']
  cases schema.type? field.type.innermost.name with
  | none => simp
  | some found => simp

theorem returned?_of_returnType {field : Field ν} {type : NamedType ν}
    (resolved : schema.returnType field = .ok type) : schema.returned? field = type.object? := by
  obtain ⟨-, found, -⟩ := returnType_ok.mp resolved
  rw [returned?, object?, findObject?, ← type?, found, Option.bind_some]

end Schema

end GraphqlRequests
