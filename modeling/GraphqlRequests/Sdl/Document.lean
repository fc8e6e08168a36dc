import GraphqlRequests.Schema

/-!
# Documents in the schema language

What a document says, before it is known to make a schema: literals, directives, and definitions and
extensions of types.
-/

namespace GraphqlRequests.Sdl

/-- A literal. Numbers keep their text; a string knows whether it was written as a block. -/
inductive Literal where
  | variable (name : String)
  | int (text : String)
  | float (text : String)
  | string (value : String) (block : Bool)
  | boolean (value : Bool)
  | null
  | enum (name : String)
  | list (items : List Literal)
  | object (fields : List (String × Literal))
  deriving Repr, Inhabited

structure Directive where
  name : String
  arguments : List (String × Literal) := []
  deriving Repr

abbrev Ref := TypeRef String

structure InputDefinition where
  description : Option String := none
  name : String
  type : Ref
  default : Option Literal := none
  directives : List Directive := []
  deriving Repr

structure FieldDefinition where
  description : Option String := none
  name : String
  arguments : List InputDefinition := []
  type : Ref
  directives : List Directive := []
  deriving Repr

structure ValueDefinition where
  description : Option String := none
  name : String
  directives : List Directive := []
  deriving Repr

structure TypeParts where
  interfaces : List String := []
  directives : List Directive := []
  fields : List FieldDefinition := []
  members : List String := []
  values : List ValueDefinition := []
  inputs : List InputDefinition := []
  deriving Repr

structure TypeDefinition where
  description : Option String := none
  kind : TypeKind
  name : String
  parts : TypeParts := {}
  deriving Repr

structure SchemaDefinition where
  directives : List Directive := []
  roots : List (OperationKind × String) := []
  deriving Repr

structure DirectiveDefinition where
  name : String
  arguments : List InputDefinition := []
  directives : List Directive := []
  repeatable : Bool := false
  locations : List String := []
  deriving Repr

structure Site where
  location : String
  directives : List Directive
  deriving Repr

/-- What an operation or a fragment uses: types, directives, arguments of its fields, and defaults
of its variables. No more of it counts. -/
structure Uses where
  types : List String := []
  sites : List Site := []
  arguments : List (List (String × Literal)) := []
  defaults : List Literal := []
  deriving Repr

def Uses.append (a b : Uses) : Uses :=
  { types := a.types ++ b.types
    sites := a.sites ++ b.sites
    arguments := a.arguments ++ b.arguments
    defaults := a.defaults ++ b.defaults }

instance : Append Uses := ⟨Uses.append⟩

def Uses.join (uses : List Uses) : Uses :=
  uses.foldl Uses.append {}

inductive Definition where
  | schema (definition : SchemaDefinition)
  | schemaExtension (definition : SchemaDefinition)
  | type (definition : TypeDefinition)
  | typeExtension (definition : TypeDefinition)
  | directive (definition : DirectiveDefinition)
  | directiveExtension (name : String) (directives : List Directive)
  | executable (uses : Uses)
  deriving Repr

abbrev Document := List Definition

namespace Document

def types (document : Document) : List TypeDefinition :=
  document.filterMap fun
    | .type definition => some definition
    | _ => none

def typeExtensions (document : Document) : List TypeDefinition :=
  document.filterMap fun
    | .typeExtension definition => some definition
    | _ => none

def schemas (document : Document) : List SchemaDefinition :=
  document.filterMap fun
    | .schema definition => some definition
    | _ => none

def schemaExtensions (document : Document) : List SchemaDefinition :=
  document.filterMap fun
    | .schemaExtension definition => some definition
    | _ => none

def directives (document : Document) : List DirectiveDefinition :=
  document.filterMap fun
    | .directive definition => some definition
    | _ => none

def directiveExtensions (document : Document) : List (String × List Directive) :=
  document.filterMap fun
    | .directiveExtension name directives => some (name, directives)
    | _ => none

def uses (document : Document) : Uses :=
  Uses.join (document.filterMap fun
    | .executable uses => some uses
    | _ => none)

end Document

def TypeParts.append (a b : TypeParts) : TypeParts :=
  { interfaces := a.interfaces ++ b.interfaces
    directives := a.directives
    fields := a.fields ++ b.fields
    members := a.members ++ b.members
    values := a.values ++ b.values
    inputs := a.inputs ++ b.inputs }

/-- The type with what its extensions add. Directives on an extension do not tell about the type. -/
def TypeDefinition.extended (type : TypeDefinition) (extensions : List TypeDefinition) :
    TypeDefinition :=
  let own := extensions.filter (·.name = type.name)
  { type with parts := own.foldl (fun parts e => parts.append e.parts) type.parts }

end GraphqlRequests.Sdl
