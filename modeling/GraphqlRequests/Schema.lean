import GraphqlRequests.Name
import GraphqlRequests.TypeRef

/-!
# Schemas

A schema is a list of named types with the names of its operation roots. Types refer to each other
by name only. Names have a type of their own, `ν`: text in a proper schema, any JSON value in one as
it was received. Descriptions, deprecation and defaults are kept as received.
-/

namespace GraphqlRequests

inductive TypeKind where
  | scalar
  | object
  | interface
  | union
  | enum
  | inputObject
  deriving DecidableEq, Repr

namespace TypeKind

def toName : TypeKind → String
  | .scalar => "SCALAR"
  | .object => "OBJECT"
  | .interface => "INTERFACE"
  | .union => "UNION"
  | .enum => "ENUM"
  | .inputObject => "INPUT_OBJECT"

def ofName? : String → Option TypeKind
  | "SCALAR" => some .scalar
  | "OBJECT" => some .object
  | "INTERFACE" => some .interface
  | "UNION" => some .union
  | "ENUM" => some .enum
  | "INPUT_OBJECT" => some .inputObject
  | _ => none

def describe : TypeKind → String
  | .scalar => "scalar"
  | .object => "object"
  | .interface => "interface"
  | .union => "union"
  | .enum => "enum"
  | .inputObject => "input_object"

/-- Values of the kind have no fields. -/
def isLeaf : TypeKind → Bool
  | .scalar | .enum => true
  | _ => false

/-- The kind stands for several object types. -/
def isAbstract : TypeKind → Bool
  | .interface | .union => true
  | _ => false

def isOutput : TypeKind → Bool
  | .inputObject => false
  | _ => true

def isInput : TypeKind → Bool
  | .scalar | .enum | .inputObject => true
  | _ => false

theorem ofName?_toName (kind : TypeKind) : ofName? kind.toName = some kind := by
  cases kind <;> rfl

end TypeKind

structure NamedRef (ν : Type) where
  kind : TypeKind
  name : ν
  deriving DecidableEq, Repr

/-- An argument of a field, or a field of an input object. A default is kept as its literal. -/
structure InputValue (ν : Type) where
  name : ν
  type : TypeRef (NamedRef ν)
  description : Json := .null
  default : Json := .null
  deriving DecidableEq, Repr

structure Field (ν : Type) where
  name : ν
  type : TypeRef (NamedRef ν)
  arguments : List (InputValue ν) := []
  description : Json := .null
  deprecated : Json := .bool false
  deprecationReason : Json := .null
  deriving DecidableEq, Repr

structure EnumValue (ν : Type) where
  name : ν
  description : Json := .null
  deprecated : Json := .bool false
  deprecationReason : Json := .null
  deriving DecidableEq, Repr

/-- What a named type holds, by kind. Interface and member names are kept as received. -/
inductive TypeBody (ν : Type) where
  | scalar
  | object (fields : List (Field ν)) (interfaces : List Json)
  | interface (fields : List (Field ν)) (interfaces possibleTypes : List Json)
  | union (possibleTypes : List Json)
  | enum (values : List (EnumValue ν))
  | inputObject (fields : List (InputValue ν))
  deriving DecidableEq, Repr

structure NamedType (ν : Type) where
  name : ν
  description : Json := .null
  body : TypeBody ν
  deriving DecidableEq, Repr

inductive OperationKind where
  | query
  | mutation
  | subscription
  deriving DecidableEq, Repr

def OperationKind.keyword : OperationKind → String
  | .query => "query"
  | .mutation => "mutation"
  | .subscription => "subscription"

structure Roots (ν : Type) where
  query : ν
  mutation : Option ν := none
  subscription : Option ν := none
  deriving DecidableEq, Repr

/-- Named types and the names of the operation roots. -/
structure Schema (ν : Type) where
  types : List (NamedType ν)
  roots : Roots ν
  deriving DecidableEq, Repr

structure ObjectType (ν : Type) where
  name : ν
  description : Json := .null
  fields : List (Field ν)
  interfaces : List Json := []
  deriving DecidableEq, Repr

/-- An operation root and the object type that declares its fields. -/
structure Operation (ν : Type) where
  kind : OperationKind
  type : ObjectType ν
  deriving DecidableEq, Repr

variable {ν : Type}

namespace TypeBody

def kind : TypeBody ν → TypeKind
  | .scalar => .scalar
  | .object .. => .object
  | .interface .. => .interface
  | .union .. => .union
  | .enum .. => .enum
  | .inputObject .. => .inputObject

end TypeBody

namespace ObjectType

def field? [DecidableEq ν] [Name ν] (type : ObjectType ν) (name : ν) : Option (Field ν) :=
  type.fields.find? (Name.key ·.name = Name.key name)

def fieldNames (type : ObjectType ν) : List ν :=
  type.fields.map (·.name)

end ObjectType

namespace NamedType

def kind (type : NamedType ν) : TypeKind :=
  type.body.kind

def object? (type : NamedType ν) : Option (ObjectType ν) :=
  match type.body with
  | .object fields interfaces => some ⟨type.name, type.description, fields, interfaces⟩
  | _ => none

end NamedType

namespace Schema

inductive Flaw (ν : Type) where
  | duplicateType (name : ν)
  | noQueryRoot
  | badRoot (kind : OperationKind) (name : ν)
  deriving DecidableEq, Repr

namespace Flaw

def message [Name ν] : Flaw ν → String
  | .duplicateType name => "Type '" ++ Name.shown name ++ "' is defined more than once"
  | .noQueryRoot => "The schema declares no query root"
  | .badRoot kind name =>
    "The " ++ kind.keyword ++ " root '" ++ Name.shown name ++ "' does not resolve to an object type"

end Flaw

section Lookup

variable [DecidableEq ν] [Name ν]

def find? (types : List (NamedType ν)) (name : ν) : Option (NamedType ν) :=
  types.find? (Name.key ·.name = Name.key name)

def findObject? (types : List (NamedType ν)) (name : ν) : Option (ObjectType ν) :=
  (find? types name).bind NamedType.object?

def type? (schema : Schema ν) (name : ν) : Option (NamedType ν) :=
  find? schema.types name

def object? (schema : Schema ν) (name : ν) : Option (ObjectType ν) :=
  findObject? schema.types name

/-- The first name that an earlier type already has. -/
def duplicate? (seen : List ν) : List (NamedType ν) → Option ν
  | [] => none
  | type :: rest =>
    if Name.key type.name ∈ seen then some type.name
    else duplicate? (Name.key type.name :: seen) rest

/-- A root, where one is named, must be an object type. -/
def checkRoot (types : List (NamedType ν)) (kind : OperationKind) :
    Option ν → Except (Flaw ν) Unit
  | none => .ok ()
  | some name => if (findObject? types name).isSome then .ok () else .error (.badRoot kind name)

/-- Put a schema together. Names must differ, there must be a query root, and each root must be an
object type; the first flaw in this order is reported. -/
def build (types : List (NamedType ν)) (query mutation subscription : Option ν) :
    Except (Flaw ν) (Schema ν) := do
  match duplicate? [] types with
  | some name => throw (.duplicateType name)
  | none =>
    match query with
    | none => throw .noQueryRoot
    | some root => do
      checkRoot types .query query
      checkRoot types .mutation mutation
      checkRoot types .subscription subscription
      return ⟨types, ⟨root, mutation, subscription⟩⟩

def root? (schema : Schema ν) : OperationKind → Option ν
  | .query => some schema.roots.query
  | .mutation => schema.roots.mutation
  | .subscription => schema.roots.subscription

def operation? (schema : Schema ν) (kind : OperationKind) : Option (Operation ν) :=
  (schema.root? kind).bind fun name => (schema.object? name).map (⟨kind, ·⟩)

/-- Query first, then mutation and subscription where the schema declares them. -/
def operations (schema : Schema ν) : List (Operation ν) :=
  [.query, .mutation, .subscription].filterMap schema.operation?

end Lookup

def describe [Name ν] (schema : Schema ν) : String :=
  "Schema(types=" ++ toString schema.types.length
    ++ ", query=" ++ Name.literal schema.roots.query ++ ")"

def rootNames (schema : Schema ν) : List ν :=
  schema.roots.query :: (schema.roots.mutation.toList ++ schema.roots.subscription.toList)

end Schema

/-! ### Internal types -/

/-- Names of the schema's own introspection types start with two underscores. -/
def isInternalName (name : String) : Bool :=
  "__".toList.isPrefixOf name.toList

/-- Is the type an introspection type? What has no text for a name is none. -/
def NamedType.isInternal [Name ν] (type : NamedType ν) : Bool :=
  (Name.text? type.name).any isInternalName

namespace Schema

variable [Name ν]

/-- The types of one kind, without the introspection types. -/
def ofKind (schema : Schema ν) (kind : TypeKind) : List (NamedType ν) :=
  schema.types.filter fun t => t.kind = kind && !t.isInternal

def objects (schema : Schema ν) : List (ObjectType ν) :=
  (schema.ofKind .object).filterMap (·.object?)

/-- Is the type named as an operation root? A root name that is empty does not count as one. -/
def isRoot [DecidableEq ν] (schema : Schema ν) (type : NamedType ν) : Bool :=
  Name.key type.name ∈ (schema.rootNames.filter Name.isGiven).map Name.key

def filter [DecidableEq ν] (schema : Schema ν) (keep : NamedType ν → Bool) :
    Except (Flaw ν) (Schema ν) :=
  build (schema.types.filter fun t => schema.isRoot t || keep t)
    (some schema.roots.query) schema.roots.mutation schema.roots.subscription

end Schema

end GraphqlRequests
