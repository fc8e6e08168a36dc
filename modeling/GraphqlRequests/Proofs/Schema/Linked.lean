import GraphqlRequests.Proofs.Reach.Visits
import Mathlib.Data.List.Basic

/-!
# Linked schemas

In a linked schema every reference names a type of the kind that the reference carries, and values
are given in input types. Only introspection types, and of these only those that are no roots, refer
to introspection types; so these stay out of reach.
-/

namespace GraphqlRequests

namespace NamedType

variable {ν : Type}

def fields (type : NamedType ν) : List (Field ν) :=
  match type.body with
  | .object fields _ | .interface fields _ _ => fields
  | _ => []

def inputFields (type : NamedType ν) : List (InputValue ν) :=
  match type.body with
  | .inputObject fields => fields
  | _ => []

def inputs (type : NamedType ν) : List (InputValue ν) :=
  type.fields.flatMap (·.arguments) ++ type.inputFields

def references (type : NamedType ν) : List (NamedRef ν) :=
  (type.fields.map (·.type) ++ type.inputs.map (·.type)).map TypeRef.innermost

variable {type : NamedType ν} {field : Field ν} {value : InputValue ν}

theorem fields_of_object? {object : ObjectType ν} (whole : type.object? = some object) :
    type.fields = object.fields := by
  rw [fields, (object?_eq_some.mp whole).2.2]

theorem mem_references_of_field (member : field ∈ type.fields) :
    field.type.innermost ∈ type.references :=
  List.mem_map_of_mem (List.mem_append_left _ (List.mem_map_of_mem member))

theorem mem_references_of_input (member : value ∈ type.inputs) :
    value.type.innermost ∈ type.references :=
  List.mem_map_of_mem (List.mem_append_right _ (List.mem_map_of_mem member))

theorem mem_inputs_of_argument (member : field ∈ type.fields) (given : value ∈ field.arguments) :
    value ∈ type.inputs :=
  List.mem_append_left _ (List.mem_flatMap.mpr ⟨field, member, given⟩)

end NamedType

namespace Schema

variable {schema : Schema String} {type : NamedType String} {object : ObjectType String}

/-- The type is an operation root or no introspection type. -/
def Shows (schema : Schema String) (type : NamedType String) : Prop :=
  type ∈ schema.types ∧ (type.name ∈ schema.rootNames ∨ isInternalName type.name = false)

/-- References name types of their kinds, and introspection types are kept apart. -/
structure Linked (schema : Schema String) : Prop where
  resolves : ∀ type ∈ schema.types, ∀ ref ∈ type.references,
    (schema.type? ref.name).map NamedType.kind = some ref.kind
  input : ∀ type ∈ schema.types, ∀ value ∈ type.inputs, value.type.innermost.kind.isInput = true
  visible : ∀ type, schema.Shows type → ∀ ref ∈ type.references, isInternalName ref.name = false

theorem mem_ofKind {kind : TypeKind} : type ∈ schema.ofKind kind ↔
    type ∈ schema.types ∧ type.kind = kind ∧ isInternalName type.name = false := by
  rw [ofKind, List.mem_filter, Bool.and_eq_true, decide_eq_true_eq, Bool.not_eq_true']
  rfl

theorem mem_objects : object ∈ schema.objects ↔
    ∃ type, schema.Shows type ∧ isInternalName type.name = false ∧ type.object? = some object := by
  rw [objects, List.mem_filterMap]
  constructor
  · rintro ⟨type, listed, whole⟩
    obtain ⟨member, -, visible⟩ := mem_ofKind.mp listed
    exact ⟨type, ⟨member, .inr visible⟩, visible, whole⟩
  · rintro ⟨type, ⟨member, -⟩, visible, whole⟩
    have kind := NamedType.object?_isSome.mp (Option.isSome_iff_exists.mpr ⟨object, whole⟩)
    exact ⟨type, mem_ofKind.mpr ⟨member, kind, visible⟩, whole⟩

theorem map_objects {β : Type} {f : ObjectType String → β} {g : NamedType String → β}
    (same : ∀ type object, type.object? = some object → f object = g type) :
    schema.objects.map f = (schema.ofKind .object).map g := by
  rw [objects, List.map_filterMap, ← List.filterMap_eq_map]
  refine List.filterMap_congr fun type listed => ?_
  have kind := (mem_ofKind.mp listed).2.1
  obtain ⟨object, whole⟩ := Option.isSome_iff_exists.mp (NamedType.object?_isSome.mpr kind)
  rw [whole, Option.map_some, Function.comp_apply, same type object whole]

theorem shows_of_mem_ofKind {kind : TypeKind} (listed : type ∈ schema.ofKind kind) :
    schema.Shows type :=
  have ⟨member, _, visible⟩ := mem_ofKind.mp listed
  ⟨member, .inr visible⟩

theorem shows_of_mem_operations {operation : Operation String}
    (member : operation ∈ schema.operations) :
    ∃ type, schema.Shows type ∧ type.object? = some operation.type := by
  obtain ⟨kind, -, declared⟩ := List.mem_filterMap.mp member
  obtain ⟨name, root, made⟩ := Option.bind_eq_some_iff.mp declared
  obtain ⟨object, found, rfl⟩ := Option.map_eq_some_iff.mp made
  obtain ⟨type, here, whole⟩ := object?_eq_some.mp found
  have named : type.name = name := key_of_type? here
  have listed : type.name ∈ schema.rootNames := named ▸ mem_rootNames_of_root? root
  exact ⟨type, ⟨mem_of_type? here, .inl listed⟩, whole⟩

namespace Linked

variable (linked : schema.Linked)
include linked

theorem exists_target (shown : schema.Shows type) {ref : NamedRef String}
    (mentioned : ref ∈ type.references) :
    ∃ target ∈ schema.ofKind ref.kind, schema.type? ref.name = some target ∧
      target.name = ref.name := by
  obtain ⟨target, found, kind⟩ :=
    Option.map_eq_some_iff.mp (linked.resolves type shown.1 ref mentioned)
  have named : target.name = ref.name := key_of_type? found
  have visible := linked.visible type shown ref mentioned
  exact ⟨target, mem_ofKind.mpr ⟨mem_of_type? found, kind, named ▸ visible⟩, found, named⟩

theorem reaches (shown : schema.Shows type) {field : Field String} (member : field ∈ type.fields)
    (reached : schema.Reaches field object) : object ∈ schema.objects := by
  -- The same argument for the first object type and for those after it.
  have step : ∀ {type : NamedType String} {field : Field String} {next : ObjectType String},
      schema.Shows type → field ∈ type.fields → schema.returned? field = some next →
      next ∈ schema.objects := by
    intro type field next shown member returned
    obtain ⟨target, here, whole⟩ := object?_eq_some.mp returned
    have named : target.name = field.type.innermost.name := key_of_type? here
    have visible := linked.visible type shown _ (NamedType.mem_references_of_field member)
    rw [← named] at visible
    exact mem_objects.mpr ⟨target, ⟨mem_of_type? here, .inr visible⟩, visible, whole⟩
  induction reached with
  | start returned => exact step shown member returned
  | step _ inside returned ih =>
    obtain ⟨type, shown, -, whole⟩ := mem_objects.mp ih
    exact step shown (NamedType.fields_of_object? whole ▸ inside) returned

end Linked

end Schema

end GraphqlRequests
