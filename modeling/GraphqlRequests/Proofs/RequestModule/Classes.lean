import GraphqlRequests.Proofs.Naming.Identifiers
import GraphqlRequests.Proofs.Outcome
import GraphqlRequests.Proofs.Schema.Linked
import GraphqlRequests.Proofs.Selection.Fragment
import GraphqlRequests.Proofs.TypeRef.Inversion
import GraphqlRequests.RequestModule.Layout

/-!
# The classes of a module

With text names a module can be read off the schema and its plans: each class stands for a type or a
plan, and its attributes for the fields or the arguments there, in order. Only the names of
attributes depend on each other.
-/

namespace GraphqlRequests

/-! ### Attributes -/

namespace RequestModule

/-- The type of an attribute that stands for a reference. -/
def typeFor (registry : ScalarRegistry) (type : TypeRef (NamedRef String)) (mayOmit : Bool) :
    CodeRef String :=
  (if mayOmit then type.toCode.orAbsent else type.toCode).map (atom registry)

@[simp] theorem innermost_typeFor (registry : ScalarRegistry) (type : TypeRef (NamedRef String))
    (mayOmit : Bool) :
    (typeFor registry type mayOmit).innermost = atom registry type.innermost := by
  cases mayOmit <;> simp [typeFor]

def ofField (registry : ScalarRegistry) (mayOmit : Bool) (field : Field String) : Attribute :=
  ⟨Naming.attributeName field.name, field.name, typeFor registry field.type mayOmit,
    field.description⟩

def ofInput (registry : ScalarRegistry) (value : InputValue String) : Attribute :=
  ⟨Naming.attributeName value.name, value.name,
    typeFor registry value.type (value.default ≠ .null), value.description⟩

theorem attributeType_eq (registry : ScalarRegistry) (type : TypeRef (NamedRef String))
    (mayOmit : Bool) :
    attributeType registry type mayOmit = .ok (typeFor registry type mayOmit) := by
  have usable : canAnnotate type = true := by simp [canAnnotate]
  rw [attributeType, if_pos usable, typeFor]

theorem fieldAttribute_eq (registry : ScalarRegistry) (mayOmit : Bool) (field : Field String) :
    fieldAttribute registry mayOmit field = .ok (ofField registry mayOmit field) := by
  rw [fieldAttribute, attributeType_eq]
  rfl

theorem inputAttribute_eq (registry : ScalarRegistry) (value : InputValue String) :
    inputAttribute registry value = .ok (ofInput registry value) := by
  rw [inputAttribute, attributeType_eq]
  rfl

theorem map_distinctAttributes {γ : Type} {view : Attribute → γ}
    (blind : ∀ a name, view { a with name } = view a) (reserved : List String)
    (attributes : List Attribute) :
    (distinctAttributes reserved attributes).map view = attributes.map view := by
  -- Of the new names only their number matters.
  have lengths := Naming.length_distinct reserved (attributes.map (·.name))
  rw [distinctAttributes]
  generalize Naming.distinct reserved (attributes.map (·.name)) = names at lengths
  induction attributes generalizing names with
  | nil => cases names <;> rfl
  | cons a rest ih =>
    cases names with
    | nil => cases lengths
    | cons name others => rw [List.zipWith_cons_cons, List.map_cons, blind, ih others
        (Nat.succ.inj lengths), List.map_cons]

theorem map_name_distinctAttributes (reserved : List String) (attributes : List Attribute) :
    (distinctAttributes reserved attributes).map (·.name)
      = Naming.distinct reserved (attributes.map (·.name)) := by
  have lengths := Naming.length_distinct reserved (attributes.map (·.name))
  rw [List.length_map] at lengths
  exact List.ext_getElem (by simp [distinctAttributes, lengths])
    fun n _ _ => by simp [distinctAttributes]

theorem forall_name_distinctAttributes {holds : String → Prop}
    (kept : ∀ name n, holds name → holds (Naming.underscored name n)) {reserved : List String}
    {attributes : List Attribute} (each : ∀ a ∈ attributes, holds a.name) :
    ∀ a ∈ distinctAttributes reserved attributes, holds a.name := by
  rw [← List.forall_mem_map (f := Attribute.name), map_name_distinctAttributes]
  exact Naming.forall_mem_distinct kept (List.forall_mem_map.mpr each)

/-- Telling names apart, all else stays with what the attributes were made from. -/
theorem forall₂_distinctAttributes_of_blind {α γ : Type} (view : Attribute → γ)
    (blind : ∀ a name, view { a with name } = view a) (related : α → γ → Prop)
    {make : α → Attribute} (reserved : List String) {list : List α}
    (each : ∀ a ∈ list, related a (view (make a))) :
    List.Forall₂ (fun a made => related a (view made)) list
      (distinctAttributes reserved (list.map make)) := by
  have views : (distinctAttributes reserved (list.map make)).map view
      = list.map fun a => view (make a) := by
    rw [map_distinctAttributes blind, List.map_map]
    rfl
  have same : List.Forall₂ related list (list.map fun a => view (make a)) :=
    List.forall₂_map_right_iff.mpr (List.forall₂_same.mpr each)
  rw [← views] at same
  exact List.forall₂_map_right_iff.mp same

theorem forall₂_type_distinctAttributes {α : Type} (related : α → CodeRef String → Prop)
    {make : α → Attribute} (reserved : List String) {list : List α}
    (each : ∀ a ∈ list, related a (make a).type) :
    List.Forall₂ (fun a made => related a made.type) list
      (distinctAttributes reserved (list.map make)) :=
  forall₂_distinctAttributes_of_blind (·.type) (fun _ _ => rfl) related reserved each

/-! ### Classes -/

def ofObject (config : Config) (object : ObjectType String) : ModelClass :=
  ⟨object.name, distinctAttributes modelMembers (object.fields.map fun field =>
    ofField config.registry (field.name ∉ (config.selectedFields object).map (·.name)) field),
    object.description⟩

theorem modelClass_eq {config : Config} {object : ObjectType String} {selection : Selection String}
    (selected : config.selection object = .ok selection) :
    modelClass config object = .ok (ofObject config object) := by
  have attributes := mapM_eq_ok fun field (_ : field ∈ object.fields) =>
    fieldAttribute_eq config.registry (field.name ∉ selection.selected) field
  rw [modelClass, selected]
  simp only [Except.mapError, bind, Except.bind, attributes]
  rw [Config.selection_ok selected]
  rfl

def ofInputObject (registry : ScalarRegistry) (type : NamedType String) : ModelClass :=
  ⟨type.name, distinctAttributes modelMembers (type.inputFields.map (ofInput registry)),
    type.description⟩

theorem inputClass_eq (registry : ScalarRegistry) (type : NamedType String) :
    inputClass registry type = .ok (ofInputObject registry type) := by
  have attributes : ∀ values : List (InputValue String),
      values.mapM (inputAttribute registry) = .ok (values.map (ofInput registry)) :=
    fun values => mapM_eq_ok fun value _ => inputAttribute_eq registry value
  obtain ⟨name, description, body⟩ := type
  cases body <;> (rw [inputClass]; simp only [attributes]; rfl)

def ofEnum (type : NamedType String) : EnumClass :=
  let values := match type.body with
    | .enum values => values
    | _ => []
  ⟨type.name, values.map fun value =>
    ⟨Naming.enumMemberName value.name, value.name, value.description⟩, type.description⟩

theorem enumClass_eq (type : NamedType String) : enumClass type = .ok (ofEnum type) := by
  have members : ∀ values : List (EnumValue String), values.mapM enumMember
      = .ok (values.map fun value =>
        ⟨Naming.enumMemberName value.name, value.name, value.description⟩) :=
    fun values => mapM_eq_ok fun _ _ => rfl
  obtain ⟨name, description, body⟩ := type
  cases body <;> (rw [enumClass]; simp only [members]; rfl)

def ofPlan (registry : ScalarRegistry) (plan : Plan String) : RequestClass where
  name := plan.className
  operation := plan.operation.kind
  operationName := plan.operationName
  field := plan.field.name
  rootKeys := plan.rootKeys
  document := plan.document
  result := typeFor registry plan.field.type false
  attributes := distinctAttributes requestMembers (plan.field.arguments.map (ofInput registry))
  description := plan.field.description

theorem requestClass_eq (registry : ScalarRegistry) (plan : Plan String) :
    requestClass registry plan = .ok (ofPlan registry plan) := by
  have attributes := mapM_eq_ok fun value (_ : value ∈ plan.field.arguments) =>
    inputAttribute_eq registry value
  rw [requestClass, attributeType_eq, attributes]
  rfl

/-! ### The module -/

def ofPlans (config : Config) (schema : Schema String) (plans : List (Plan String)) :
    RequestModule where
  sources := config.registry.sourcesFor (scalarNames schema)
  enums := (schema.ofKind .enum).map ofEnum
  inputs := (schema.ofKind .inputObject).map (ofInputObject config.registry)
  models := (reachedObjects schema plans).map (ofObject config)
  requests := plans.map (ofPlan config.registry)

/-- A module is built wherever the selections of the reached object types are made. -/
theorem build_eq {config : Config} {schema : Schema String} {plans : List (Plan String)}
    (selected : ∀ object ∈ reachedObjects schema plans, ∃ selection,
      config.selection object = .ok selection) :
    build config schema plans = .ok (ofPlans config schema plans) := by
  have models : (reachedObjects schema plans).mapM (modelClass config)
      = .ok ((reachedObjects schema plans).map (ofObject config)) := by
    refine mapM_eq_ok fun object member => ?_
    obtain ⟨selection, made⟩ := selected object member
    exact modelClass_eq made
  have scalars : hasScalarNames schema = true := by simp [hasScalarNames]
  rw [build]
  simp only [models, mapM_eq_ok fun type _ => inputClass_eq config.registry type,
    mapM_eq_ok fun plan _ => requestClass_eq config.registry plan,
    mapM_eq_ok fun type _ => enumClass_eq type, scalars]
  rfl

end RequestModule

end GraphqlRequests
