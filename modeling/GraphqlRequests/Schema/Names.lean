import GraphqlRequests.Schema

/-!
# Names of a schema

A schema as received may have any value for a name. `Schema.textual?` is the same schema with text
names, where all names are texts.
-/

namespace GraphqlRequests

variable {ν μ : Type}

def NamedRef.mapName? (f : ν → Option μ) (ref : NamedRef ν) : Option (NamedRef μ) := do
  return ⟨ref.kind, ← f ref.name⟩

def InputValue.mapNames? (f : ν → Option μ) (value : InputValue ν) : Option (InputValue μ) := do
  return ⟨← f value.name, ← value.type.map? (·.mapName? f), value.description, value.default⟩

def Field.mapNames? (f : ν → Option μ) (field : Field ν) : Option (Field μ) := do
  return ⟨← f field.name, ← field.type.map? (·.mapName? f), ← field.arguments.mapM (·.mapNames? f),
    field.description, field.deprecated, field.deprecationReason⟩

def EnumValue.mapName? (f : ν → Option μ) (value : EnumValue ν) : Option (EnumValue μ) := do
  return ⟨← f value.name, value.description, value.deprecated, value.deprecationReason⟩

def TypeBody.mapNames? (f : ν → Option μ) : TypeBody ν → Option (TypeBody μ)
  | .scalar => some .scalar
  | .object fields interfaces => do return .object (← fields.mapM (·.mapNames? f)) interfaces
  | .interface fields interfaces possibleTypes => do
    return .interface (← fields.mapM (·.mapNames? f)) interfaces possibleTypes
  | .union possibleTypes => some (.union possibleTypes)
  | .enum values => do return .enum (← values.mapM (·.mapName? f))
  | .inputObject fields => do return .inputObject (← fields.mapM (·.mapNames? f))

def NamedType.mapNames? (f : ν → Option μ) (type : NamedType ν) : Option (NamedType μ) := do
  return ⟨← f type.name, type.description, ← type.body.mapNames? f⟩

def Roots.optionalName? (f : ν → Option μ) : Option ν → Option (Option μ)
  | none => some none
  | some name => (f name).map some

def Schema.mapNames? (f : ν → Option μ) (schema : Schema ν) : Option (Schema μ) := do
  let types ← schema.types.mapM (·.mapNames? f)
  let query ← f schema.roots.query
  let mutation ← Roots.optionalName? f schema.roots.mutation
  let subscription ← Roots.optionalName? f schema.roots.subscription
  return ⟨types, ⟨query, mutation, subscription⟩⟩

/-- The schema with text names, where all names are texts. -/
def Schema.textual? (schema : Schema Json) : Option (Schema String) :=
  schema.mapNames? Json.string?

end GraphqlRequests
