import GraphqlRequests.Proofs.Schema.Lookup
import GraphqlRequests.Sdl.Token
import Mathlib.Data.List.Nodup

/-!
# Proper schemas

In a proper schema object types and their fields have names of the query language, no two fields of
a type have one name, and a field refers to an output type, with the kind that this type has. Where
such a field does not offend, it returns an object type or a leaf, as its reference says.
-/

namespace GraphqlRequests

variable {ν : Type} [Name ν]

/-- The name is a text that is a name of the query language. -/
def Name.Written (name : ν) : Prop :=
  ∃ text, name = Name.ofText text ∧ Sdl.isName text.toList = true

instance (name : String) : Decidable (Name.Written name) :=
  decidable_of_iff (Sdl.isName name.toList = true)
    ⟨fun named => ⟨name, rfl, named⟩, fun ⟨_, same, named⟩ => by rwa [same]⟩

namespace Name.Written

variable {name other : ν}

theorem isName_shown (written : Written name) : Sdl.isName (Name.shown name).toList = true := by
  obtain ⟨text, rfl, named⟩ := written
  rwa [Name.shown_ofText]

theorem text_eq_shown (written : Written name) : Name.text name = Name.shown name := by
  obtain ⟨text, rfl, -⟩ := written
  rw [Name.text_ofText, Name.shown_ofText]

@[simp] theorem ofText_shown (written : Written name) : Name.ofText (Name.shown name) = name := by
  obtain ⟨text, rfl, -⟩ := written
  rw [Name.shown_ofText]

theorem eq_of_key (written : Written name) (same : Name.key name = Name.key other) :
    name = other := by
  obtain ⟨text, rfl, -⟩ := written
  rw [Name.key_ofText, eq_comm, Name.key_eq_ofText] at same
  exact same.symm

theorem shown_inj (first : Written name) (second : Written other) :
    Name.shown name = Name.shown other ↔ name = other := by
  refine ⟨fun same => ?_, congrArg Name.shown⟩
  rw [← first.ofText_shown, same, second.ofText_shown]

end Name.Written

variable [DecidableEq ν]

structure ObjectType.Proper (schema : Schema ν) (object : ObjectType ν) : Prop where
  named : Name.Written object.name
  fields : ∀ field ∈ object.fields, Name.Written field.name
  distinct : object.fieldNames.Nodup
  output : ∀ field ∈ object.fields, field.type.innermost.kind.isOutput = true
  kind : ∀ field ∈ object.fields, ∀ type, schema.type? field.type.innermost.name = some type →
    field.type.innermost.kind = type.kind

def Schema.Proper (schema : Schema ν) : Prop :=
  ∀ type ∈ schema.types, ∀ object, type.object? = some object → object.Proper schema

variable {schema : Schema ν}

theorem Schema.Proper.object (proper : schema.Proper) {name : ν} {object : ObjectType ν}
    (found : schema.object? name = some object) : object.Proper schema := by
  obtain ⟨type, here, whole⟩ := object?_eq_some.mp found
  exact proper type (mem_of_type? here) object whole

variable {object next : ObjectType ν} {field : Field ν}

theorem ObjectType.field?_of_mem (written : ∀ field ∈ object.fields, Name.Written field.name)
    (distinct : object.fieldNames.Nodup) (member : field ∈ object.fields) :
    object.field? field.name = some field := by
  rw [field?]
  cases found : object.fields.find? fun other => Name.key other.name = Name.key field.name with
  | none =>
    have differs := List.find?_eq_none.mp found field member
    simp at differs
  | some other =>
    have inside := List.mem_of_find?_eq_some found
    have same : Name.key other.name = Name.key field.name := by simpa using List.find?_some found
    have named := (written other inside).eq_of_key same
    rw [List.inj_on_of_nodup_map distinct inside member named]

namespace ObjectType.Proper

theorem field?_name (proper : object.Proper schema) (member : field ∈ object.fields) :
    object.field? field.name = some field :=
  field?_of_mem proper.fields proper.distinct member

/-- A field that does not offend returns nothing to select from exactly where its reference says
so. -/
theorem isLeaf_eq (proper : object.Proper schema) (member : field ∈ object.fields)
    (fine : schema.offends field = false) :
    field.type.innermost.kind.isLeaf = (schema.returned? field).isNone := by
  obtain ⟨type, resolved⟩ := Schema.offends_eq_false.mp fine
  obtain ⟨-, found, concrete⟩ := Schema.returnType_ok.mp resolved
  have output := proper.output field member
  have object := type.object?_isSome
  rw [Schema.returned?_of_returnType resolved]
  rw [proper.kind field member type found] at output ⊢
  cases kind : type.kind <;> simp_all [TypeKind.isLeaf, TypeKind.isAbstract, TypeKind.isOutput]

end ObjectType.Proper

theorem Schema.Proper.name_of_returned? (proper : schema.Proper)
    (returned : schema.returned? field = some next) : field.type.innermost.name = next.name :=
  ((proper.object returned).named.eq_of_key (key_of_object? returned)).symm

end GraphqlRequests
