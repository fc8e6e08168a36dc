import GraphqlRequests.Plan

/-!
# Generated modules

What a generated module holds: enums, classes for input objects and for responses, and a class for
each planned operation field. `RequestModule.build` makes them from a schema and its plans.
-/

namespace GraphqlRequests

/-- An attribute of a generated class. Its type has the annotations of the innermost types. -/
structure Attribute where
  name : String
  sourceName : String
  type : CodeRef String
  description : Json := .null
  deriving DecidableEq, Repr

/-- An attribute must be given unless its type is optional. -/
def Attribute.required (a : Attribute) : Bool :=
  !a.type.isOptional

structure ModelClass where
  name : String
  attributes : List Attribute
  description : Json := .null
  deriving DecidableEq, Repr

structure EnumMember where
  name : String
  value : String
  description : Json := .null
  deriving DecidableEq, Repr

structure EnumClass where
  name : String
  members : List EnumMember
  description : Json := .null
  deriving DecidableEq, Repr

structure RequestClass where
  name : String
  operation : OperationKind
  operationName : String
  field : String
  rootKeys : List String
  document : String
  result : CodeRef String
  attributes : List Attribute
  description : Json := .null
  deriving DecidableEq, Repr

structure RequestModule where
  sources : List String
  enums : List EnumClass
  inputs : List ModelClass
  models : List ModelClass
  requests : List RequestClass
  deriving DecidableEq, Repr

/-- Why a planned schema cannot be rendered: a name that an identifier is made from is no text, or
one that cannot be looked up by; the name of a scalar is no text; a selection does not fit after
all; or a description is no text, where a docstring or a comment is wanted. -/
inductive EmitFailure where
  | nameNotText
  | unusableName
  | scalarNotText
  | plan (cause : PlanFailure)
  | docstring
  | comment
  deriving DecidableEq, Repr

namespace RequestModule

variable {ν : Type} [DecidableEq ν] [Name ν]

def identifiable (name : ν) : Except EmitFailure String :=
  match Name.text? name with
  | some text => .ok text
  | none => .error .nameNotText

def attributeType (registry : ScalarRegistry) (type : TypeRef (NamedRef ν))
    (mayOmit : Bool) : Except EmitFailure (CodeRef String) :=
  if canAnnotate type then
    .ok ((if mayOmit then type.toCode.orAbsent else type.toCode).map (atom registry))
  else .error .unusableName

/-- The attribute that stands for a field, before clashing names are told apart. -/
def fieldAttribute (registry : ScalarRegistry) (mayOmit : Bool) (field : Field ν) :
    Except EmitFailure Attribute := do
  let name ← identifiable field.name
  let type ← attributeType registry field.type mayOmit
  return ⟨Naming.attributeName name, name, type, field.description⟩

/-- The attribute that stands for an argument or an input field. One with a default may be
omitted. -/
def inputAttribute (registry : ScalarRegistry) (value : InputValue ν) :
    Except EmitFailure Attribute := do
  let name ← identifiable value.name
  let type ← attributeType registry value.type (value.default ≠ .null)
  return ⟨Naming.attributeName name, name, type, value.description⟩

/-- Give the attributes names that differ from each other and from the reserved ones. -/
def distinctAttributes (reserved : List String) (attributes : List Attribute) : List Attribute :=
  List.zipWith (fun a name => { a with name }) attributes
    (Naming.distinct reserved (attributes.map (·.name)))

def modelMembers : List String := ["model_config"]

def requestMembers : List String :=
  modelMembers ++ ["operation_type", "operation_name", "root_selection_keys", "document", "payload",
    "parse_result"]

def enumMember (value : EnumValue ν) : Except EmitFailure EnumMember := do
  let name ← identifiable value.name
  return ⟨Naming.enumMemberName name, name, value.description⟩

def enumClass (type : NamedType ν) : Except EmitFailure EnumClass := do
  let values := match type.body with
    | .enum values => values
    | _ => []
  return ⟨Name.text type.name, ← values.mapM enumMember, type.description⟩

def inputClass (registry : ScalarRegistry) (type : NamedType ν) :
    Except EmitFailure ModelClass := do
  let fields := match type.body with
    | .inputObject fields => fields
    | _ => []
  let attributes ← fields.mapM (inputAttribute registry)
  return ⟨Name.text type.name, distinctAttributes modelMembers attributes, type.description⟩

/-- The class of an object type. Fields that its selection leaves out may be omitted. -/
def modelClass (config : Config) (type : ObjectType ν) : Except EmitFailure ModelClass := do
  let selection ← (config.selection type).mapError .plan
  let attributes ← type.fields.mapM fun field =>
    fieldAttribute config.registry (field.name ∉ selection.selected) field
  return ⟨Name.text type.name, distinctAttributes modelMembers attributes, type.description⟩

def requestClass (registry : ScalarRegistry) (plan : Plan ν) : Except EmitFailure RequestClass := do
  let field ← identifiable plan.field.name
  let result ← attributeType registry plan.field.type false
  let attributes ← plan.field.arguments.mapM (inputAttribute registry)
  return { name := plan.className, operation := plan.operation.kind
           operationName := plan.operationName, field, rootKeys := plan.rootKeys
           document := plan.document, result
           attributes := distinctAttributes requestMembers attributes
           description := plan.field.description }

/-- The object types that some plan reaches, in the order of the schema. -/
def reachedObjects (schema : Schema ν) (plans : List (Plan ν)) : List (ObjectType ν) :=
  let reached := plans.flatMap fun plan => plan.reachable.map Prod.fst
  schema.objects.filter fun type => type.name ∈ reached

def scalarNames (schema : Schema ν) : List String :=
  (schema.ofKind .scalar).map fun type => Name.text type.name

def hasScalarNames (schema : Schema ν) : Bool :=
  (schema.ofKind .scalar).all fun type => Name.isText type.name

def build (config : Config) (schema : Schema ν) (plans : List (Plan ν)) :
    Except EmitFailure RequestModule := do
  let registry := config.registry
  let models ← (reachedObjects schema plans).mapM (modelClass config)
  let inputs ← (schema.ofKind .inputObject).mapM (inputClass registry)
  let requests ← plans.mapM (requestClass registry)
  if !hasScalarNames schema then throw .scalarNotText
  let enums ← (schema.ofKind .enum).mapM enumClass
  return ⟨registry.sourcesFor (scalarNames schema), enums, inputs, models, requests⟩

/-! ### Descriptions -/

def classDescriptions (description : Json) (members : List Json) : List (EmitFailure × Json) :=
  (.docstring, description) :: members.map (.comment, ·)

def descriptions (module : RequestModule) : List (EmitFailure × Json) :=
  let model (model : ModelClass) : List (EmitFailure × Json) :=
    classDescriptions model.description (model.attributes.map (·.description))
  let given := (module.enums.flatMap fun enum =>
      classDescriptions enum.description (enum.members.map (·.description)))
    ++ module.inputs.flatMap model
    ++ module.models.flatMap model
    ++ module.requests.flatMap fun request =>
      classDescriptions request.description (request.attributes.map (·.description))
  given.filter (·.2.isPresent)

def descriptionFailure? (module : RequestModule) : Option EmitFailure :=
  (module.descriptions.find? (·.2.text?.isNone)).map Prod.fst

def canEncode (module : RequestModule) : Bool :=
  module.descriptions.all (·.2.string?.isSome)

/-! ### Scalars in use -/

/-- The scalars that the module's annotations and imports refer to. -/
def usedScalars (schema : Schema ν) (plans : List (Plan ν)) : List ν :=
  ((schema.ofKind .inputObject).flatMap fun type =>
      match type.body with
      | .inputObject fields => fields.flatMap fun field => scalarOf field.type
      | _ => [])
    ++ ((reachedObjects schema plans).flatMap fun type =>
      type.fields.flatMap fun field => scalarOf field.type)
    ++ (plans.flatMap fun plan =>
      scalarOf plan.field.type ++ plan.field.arguments.flatMap fun a => scalarOf a.type)
    ++ (schema.ofKind .scalar).map (·.name)

end RequestModule

end GraphqlRequests
