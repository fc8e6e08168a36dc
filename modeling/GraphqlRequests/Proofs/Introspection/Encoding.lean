import GraphqlRequests.Introspection
import GraphqlRequests.Proofs.Schema.Built
import GraphqlRequests.Proofs.Schema.Linked

/-!
# Introspection values of a schema

`Encodes schema value` says that a value is an introspection result for a schema: each part stands
under its key, an empty list may be left out, and keys of no meaning may be added anywhere below the
whole. `encode` makes the value that has every key.
-/

namespace GraphqlRequests.Introspection

/-! ### Parts of a value -/

/-- The items stand under the key in a list; if there are none, null or nothing may stand there. -/
def Lists (key : String) (items : List Json) (value : Json) : Prop :=
  value.get? key = some (.array items) ∨ items = [] ∧ value.getD key = .null

def EncodesList {α : Type} (encodes : α → Json → Prop) (key : String) (parts : List α)
    (value : Json) : Prop :=
  ∃ items, Lists key items value ∧ List.Forall₂ encodes parts items

def EncodesName (name value : Json) : Prop :=
  value.get? "name" = some name

/-- Wrappers by their kind, the rest of the reference under `ofType`. -/
inductive EncodesRef : TypeRef (NamedRef Json) → Json → Prop where
  | named {kind name value} (kinded : value.get? "kind" = some (.string (TypeKind.toName kind)))
      (called : EncodesName name value) : EncodesRef (.named ⟨kind, name⟩) value
  | list {item value inner} (kinded : value.get? "kind" = some (.string "LIST"))
      (wraps : value.get? "ofType" = some inner) (rest : EncodesRef item inner) :
      EncodesRef (.list item) value
  | nonNull {ref value inner} (kinded : value.get? "kind" = some (.string "NON_NULL"))
      (wraps : value.get? "ofType" = some inner) (rest : EncodesRef ref inner) :
      EncodesRef (.nonNull ref) value

structure EncodesInput (input : InputValue Json) (value : Json) : Prop where
  called : EncodesName input.name value
  type : ∃ ref, value.get? "type" = some ref ∧ EncodesRef input.type ref
  description : value.getD "description" = input.description
  default : value.getD "defaultValue" = input.default

/-- A flag that is left out is false. -/
def Flags (key : String) (flag value : Json) : Prop :=
  value.get? key = some flag ∨ flag = .bool false ∧ value.get? key = none

structure EncodesField (field : Field Json) (value : Json) : Prop where
  called : EncodesName field.name value
  type : ∃ ref, value.get? "type" = some ref ∧ EncodesRef field.type ref
  arguments : EncodesList EncodesInput "args" field.arguments value
  description : value.getD "description" = field.description
  deprecated : Flags "isDeprecated" field.deprecated value
  reason : value.getD "deprecationReason" = field.deprecationReason

structure EncodesEnumValue (member : EnumValue Json) (value : Json) : Prop where
  called : EncodesName member.name value
  description : value.getD "description" = member.description
  deprecated : Flags "isDeprecated" member.deprecated value
  reason : value.getD "deprecationReason" = member.deprecationReason

def EncodesBody : TypeBody Json → Json → Prop
  | .scalar, _ => True
  | .object fields interfaces, value =>
    EncodesList EncodesField "fields" fields value ∧
    EncodesList EncodesName "interfaces" interfaces value
  | .interface fields interfaces possibleTypes, value =>
    EncodesList EncodesField "fields" fields value ∧
    EncodesList EncodesName "interfaces" interfaces value ∧
    EncodesList EncodesName "possibleTypes" possibleTypes value
  | .union possibleTypes, value => EncodesList EncodesName "possibleTypes" possibleTypes value
  | .enum values, value => EncodesList EncodesEnumValue "enumValues" values value
  | .inputObject fields, value => EncodesList EncodesInput "inputFields" fields value

structure EncodesType (type : NamedType Json) (value : Json) : Prop where
  kinded : value.get? "kind" = some (.string type.kind.toName)
  called : EncodesName type.name value
  description : value.getD "description" = type.description
  body : EncodesBody type.body value

def EncodesRoot (key : String) : Option Json → Json → Prop
  | some name, value => ∃ root, value.get? key = some root ∧ EncodesName name root
  | none, value => value.getD key = .null

structure Encodes (schema : Schema Json) (value : Json) : Prop where
  types : ∃ items, value.get? "types" = some (.array items) ∧
    List.Forall₂ EncodesType schema.types items
  query : EncodesRoot "queryType" schema.roots.query value
  mutation : EncodesRoot "mutationType" schema.roots.mutation value
  subscription : EncodesRoot "subscriptionType" schema.roots.subscription value
  /-- The value is not taken for a response around another one. -/
  bare : value.get? "data" = none ∧ value.get? "__schema" = none

/-! ### The value with every key -/

def encodeName (name : Json) : Json :=
  .object [("name", name)]

def encodeRef : TypeRef (NamedRef Json) → Json
  | .named type =>
    .object [("kind", .string type.kind.toName), ("name", type.name), ("ofType", .null)]
  | .list item =>
    .object [("kind", .string "LIST"), ("name", .null), ("ofType", encodeRef item)]
  | .nonNull inner =>
    .object [("kind", .string "NON_NULL"), ("name", .null), ("ofType", encodeRef inner)]

def encodeInput (input : InputValue Json) : Json :=
  .object [("name", input.name), ("description", input.description),
    ("type", encodeRef input.type), ("defaultValue", input.default)]

def encodeField (field : Field Json) : Json :=
  .object [("name", field.name), ("description", field.description),
    ("args", .array (field.arguments.map encodeInput)), ("type", encodeRef field.type),
    ("isDeprecated", field.deprecated), ("deprecationReason", field.deprecationReason)]

def encodeEnumValue (member : EnumValue Json) : Json :=
  .object [("name", member.name), ("description", member.description),
    ("isDeprecated", member.deprecated), ("deprecationReason", member.deprecationReason)]

def encodeBody : TypeBody Json → List (String × Json)
  | .scalar => []
  | .object fields interfaces =>
    [("fields", .array (fields.map encodeField)),
      ("interfaces", .array (interfaces.map encodeName))]
  | .interface fields interfaces possibleTypes =>
    [("fields", .array (fields.map encodeField)),
      ("interfaces", .array (interfaces.map encodeName)),
      ("possibleTypes", .array (possibleTypes.map encodeName))]
  | .union possibleTypes => [("possibleTypes", .array (possibleTypes.map encodeName))]
  | .enum values => [("enumValues", .array (values.map encodeEnumValue))]
  | .inputObject fields => [("inputFields", .array (fields.map encodeInput))]

def encodeType (type : NamedType Json) : Json :=
  .object ([("kind", .string type.kind.toName), ("name", type.name),
    ("description", type.description)] ++ encodeBody type.body)

def encodeRoot (root : Option Json) : Json :=
  (root.map encodeName).getD .null

def encode (schema : Schema Json) : Json :=
  .object [("queryType", encodeRoot schema.roots.query),
    ("mutationType", encodeRoot schema.roots.mutation),
    ("subscriptionType", encodeRoot schema.roots.subscription),
    ("types", .array (schema.types.map encodeType))]

theorem forall₂_map {α : Type} {encodes : α → Json → Prop} {make : α → Json}
    (each : ∀ part, encodes part (make part)) (parts : List α) :
    List.Forall₂ encodes parts (parts.map make) := by
  rw [List.forall₂_map_right_iff]
  exact List.forall₂_same.mpr fun part _ => each part

theorem encodesList_map {α : Type} {encodes : α → Json → Prop} {make : α → Json} {key : String}
    {parts : List α} {value : Json} (each : ∀ part, encodes part (make part))
    (held : value.get? key = some (.array (parts.map make))) :
    EncodesList encodes key parts value :=
  ⟨_, .inl held, forall₂_map each parts⟩

theorem encodesRef_encodeRef (ref : TypeRef (NamedRef Json)) : EncodesRef ref (encodeRef ref) := by
  induction ref with
  | named type => exact .named rfl rfl
  | list item ih => exact .list rfl rfl ih
  | nonNull inner ih => exact .nonNull rfl rfl ih

theorem encodesInput_encodeInput (input : InputValue Json) :
    EncodesInput input (encodeInput input) where
  called := rfl
  type := ⟨_, rfl, encodesRef_encodeRef input.type⟩
  description := rfl
  default := rfl

theorem encodesField_encodeField (field : Field Json) : EncodesField field (encodeField field) where
  called := rfl
  type := ⟨_, rfl, encodesRef_encodeRef field.type⟩
  arguments := encodesList_map encodesInput_encodeInput rfl
  description := rfl
  deprecated := .inl rfl
  reason := rfl

theorem encodesEnumValue_encodeEnumValue (member : EnumValue Json) :
    EncodesEnumValue member (encodeEnumValue member) where
  called := rfl
  description := rfl
  deprecated := .inl rfl
  reason := rfl

theorem encodesType_encodeType (type : NamedType Json) : EncodesType type (encodeType type) where
  called := rfl
  kinded := rfl
  description := rfl
  body := by
    have names : ∀ name, EncodesName name (encodeName name) := fun _ => rfl
    obtain ⟨name, description, body⟩ := type
    cases body with
    | scalar => exact trivial
    | object fields interfaces =>
      exact ⟨encodesList_map encodesField_encodeField rfl, encodesList_map names rfl⟩
    | interface fields interfaces possibleTypes =>
      exact ⟨encodesList_map encodesField_encodeField rfl, encodesList_map names rfl,
        encodesList_map names rfl⟩
    | union possibleTypes => exact encodesList_map names rfl
    | enum values => exact encodesList_map encodesEnumValue_encodeEnumValue rfl
    | inputObject fields => exact encodesList_map encodesInput_encodeInput rfl

theorem encodes_encode (schema : Schema Json) : Encodes schema (encode schema) := by
  obtain ⟨types, query, mutation, subscription⟩ := schema
  refine ⟨⟨_, rfl, forall₂_map encodesType_encodeType types⟩, ⟨_, rfl, rfl⟩, ?_, ?_, rfl, rfl⟩
  · cases mutation with
    | none => rfl
    | some name => exact ⟨_, rfl, rfl⟩
  · cases subscription with
    | none => rfl
    | some name => exact ⟨_, rfl, rfl⟩

end GraphqlRequests.Introspection
