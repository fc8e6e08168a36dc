import GraphqlRequests.Config
import GraphqlRequests.Json.Writer
import GraphqlRequests.Naming
import GraphqlRequests.Reach
import GraphqlRequests.Text.Class
import GraphqlRequests.TypeRef.Written

/-!
# Operation plans

A plan holds what the document for one operation field needs: the object types that the field
reaches, a fragment for each, and the closure of those that the document carries. `planAll` plans
every field of every operation, and reports all failures together, unless one stops it.
-/

namespace GraphqlRequests

/-- Everything that is needed to emit one operation field. -/
structure Plan (ν : Type) where
  operation : Operation ν
  field : Field ν
  reachable : FieldMap ν := []
  table : Fragment.Table := []
  fragments : Fragment.Table := []
  rootKeys : List String := []
  deriving DecidableEq, Repr

inductive PlanFailure where
  | reach (cause : ReachFailure)
  | unknownFields (cause : UnknownFields)
  | unknownType (type : String)
  | missingFragment (key : String)
  | unusableName
  | nameNotText
  | lostType (type : String)
  | lostField (type field : String)
  deriving DecidableEq, Repr

namespace PlanFailure

def message? : PlanFailure → Option String
  | .reach cause => cause.message?
  | .unknownFields cause => some cause.message
  | .unknownType type => some ("Selections configured for unknown object type '" ++ type ++ "'")
  | .missingFragment key => some ("No fragment named '" ++ key ++ "' in the fragment table")
  | .unusableName | .nameNotText | .lostType _ | .lostField .. => none

def isConfig : PlanFailure → Bool
  | .unknownFields _ | .unknownType _ => true
  | _ => false

/-- Can nothing be planned after it? These are the failures that nothing is said about. -/
def isFinal (failure : PlanFailure) : Bool :=
  failure.message?.isNone

def ofSelect : SelectFailure → PlanFailure
  | .unknownFields cause => .unknownFields cause
  | .unusableName => .unusableName

def ofRender : RenderFailure → PlanFailure
  | .abstractField field => .reach (.abstractType field)
  | .lostField type field => .lostField type field
  | .nameNotText => .nameNotText

end PlanFailure

/-- Why nothing is planned: failures that were all tried for, or one that nothing follows. -/
inductive PlanningFailure where
  | failed (failures : List PlanFailure)
  | stopped (cause : PlanFailure)
  deriving DecidableEq, Repr

variable {ν : Type} [DecidableEq ν] [Name ν]

namespace Plan

def operationName (plan : Plan ν) : String :=
  Naming.pascalCase (Name.text plan.field.name) ++ Naming.pascalCase plan.operation.kind.keyword

def className (plan : Plan ν) : String :=
  plan.operationName ++ "Request"

/-- One variable: its name, type and default. -/
def variableDefinition (argument : InputValue ν) : String :=
  "$" ++ Name.shown argument.name ++ ": " ++ argument.type.written
    ++ (if argument.default = .null then "" else " = " ++ argument.default.display)

def variableDefinitions (plan : Plan ν) : List String :=
  plan.field.arguments.map variableDefinition

def parenthesized (texts : List String) : String :=
  if texts = [] then "" else "(" ++ Text.join ", " texts ++ ")"

def call (plan : Plan ν) : String :=
  Name.shown plan.field.name
    ++ parenthesized (plan.field.arguments.map fun a =>
      Name.shown a.name ++ ": $" ++ Name.shown a.name)

def operationLines (plan : Plan ν) : List String :=
  [plan.operation.kind.keyword ++ " " ++ plan.operationName
      ++ parenthesized plan.variableDefinitions ++ " \x7b"]
    ++ (if plan.rootKeys = [] then [Selection.indent ++ plan.call]
      else [Selection.indent ++ plan.call ++ " \x7b"]
        ++ plan.rootKeys.map (Selection.indent ++ Selection.indent ++ Fragment.spread ·)
        ++ [Selection.indent ++ "\x7d"])
    ++ ["\x7d"]

def renderFragments (fragments : Fragment.Table) : String :=
  Text.join "\n\n" (fragments.map fun e => String.ofList (Text.strip e.2.toList))

def document (plan : Plan ν) : String :=
  Text.unlines plan.operationLines
    ++ (if plan.fragments = [] then "" else "\n\n" ++ renderFragments plan.fragments)

end Plan

namespace Config

def selection (config : Config) (type : ObjectType ν) : Except PlanFailure (Selection ν) :=
  (Selection.of type (config.selectionFor (Name.text type.name))).mapError .ofSelect

def sortedTypes (map : FieldMap ν) : List String :=
  Text.sorted (map.map fun e => Name.text e.1)

def fragment (config : Config) (schema : Schema ν) (type : String) :
    Except PlanFailure (String × String) :=
  match schema.object? (Name.ofText type) with
  | none => .error (.lostType type)
  | some object => do
    let selection ← config.selection object
    let body ← selection.fragment.mapError .ofRender
    return (selection.key, body)

/-- One fragment for each type of the map, in the order of the types' names. -/
def fragmentTable (config : Config) (schema : Schema ν) (map : FieldMap ν) :
    Except PlanFailure Fragment.Table := do
  let entries ← (sortedTypes map).mapM (config.fragment schema)
  return .ofList entries

def planField (config : Config) (schema : Schema ν) (operation : Operation ν)
    (field : Field ν) : Except PlanFailure (Plan ν) := do
  let type ← (schema.returnType field).mapError .reach
  match type.object? with
  | none => return { operation, field }
  | some object => do
    let reachable ← (schema.reachable field).mapError .reach
    let table ← config.fragmentTable schema reachable
    let rootKeys := [Fragment.key (Name.shown object.name)]
    let fragments ← (Fragment.closure table rootKeys).mapError .missingFragment
    return { operation, field, reachable, table, fragments, rootKeys }

def selectionFailure? (config : Config) (schema : Schema ν) (type : String) :
    Option PlanFailure :=
  match schema.object? (Name.ofText type) with
  | none => some (.unknownType type)
  | some object =>
    match config.selection object with
    | .ok _ => none
    | .error e => some e

def selectionFailures (config : Config) (schema : Schema ν) : List PlanFailure :=
  config.selections.filterMap fun s => config.selectionFailure? schema s.1

def operationFields (schema : Schema ν) : List (Operation ν × Field ν) :=
  schema.operations.flatMap fun operation => operation.type.fields.map (operation, ·)

/-- A failure to plan a field, unless the configuration is at fault: that is reported once, by
`selectionFailures`. -/
def fieldFailure? : Except PlanFailure (Plan ν) → Option PlanFailure
  | .ok _ => none
  | .error e => if e.isConfig then none else some e

/-- Plan every field of every operation. All failures are listed: first those of the configured
selections, then those of the fields. The first one that is final stops the planning. -/
def planAll (config : Config) (schema : Schema ν) : Except PlanningFailure (List (Plan ν)) :=
  let outcomes := (operationFields schema).map fun (operation, field) =>
    config.planField schema operation field
  let failures := config.selectionFailures schema ++ outcomes.filterMap fieldFailure?
  match failures.find? (·.isFinal) with
  | some cause => .error (.stopped cause)
  | none =>
    if failures = [] then .ok (outcomes.filterMap Except.toOption) else .error (.failed failures)

def failuresMessage (failures : List PlanFailure) : String :=
  Text.unlines (("Generation failed with " ++ toString failures.length ++ " error(s)")
    :: failures.map fun failure => "  - " ++ failure.message?.getD "")

end Config

end GraphqlRequests
