import GraphqlRequests.Fragment
import GraphqlRequests.Schema
import GraphqlRequests.Text.Quoted

/-!
# Selections

The fields of an object type that its fragment asks for: all of them, or those requested by name.
They are kept and rendered in order of declaration.
-/

namespace GraphqlRequests

structure AbstractField where
  kind : TypeKind
  type : String
  field : String
  deriving DecidableEq, Repr

/-- Selecting from an interface or a union needs a fragment for each possible type. -/
def AbstractField.message (e : AbstractField) : String :=
  e.kind.describe ++ " '" ++ e.type ++ "' for field '" ++ e.field ++ "'"

/-- Why a selection cannot be rendered. -/
inductive RenderFailure where
  | abstractField (field : AbstractField)
  | lostField (type field : String)
  | nameNotText
  deriving DecidableEq, Repr

structure UnknownFields where
  type : String
  names : List String
  deriving DecidableEq, Repr

def UnknownFields.message (e : UnknownFields) : String :=
  "Unknown field(s) for type '" ++ e.type ++ "': " ++ Text.join ", " e.names

/-- Why fields cannot be selected: some are no fields of the type, or the type has a field with a
name that cannot be looked up by. -/
inductive SelectFailure where
  | unknownFields (cause : UnknownFields)
  | unusableName
  deriving DecidableEq, Repr

/-- The selected fields of an object type. -/
structure Selection (ν : Type) where
  type : ObjectType ν
  selected : List ν
  deriving DecidableEq, Repr

namespace Selection

variable {ν : Type} [DecidableEq ν] [Name ν]

def indent : String := "  "

def all (type : ObjectType ν) : Selection ν :=
  ⟨type, type.fieldNames⟩

/-- The requested fields of the type, or all where none are requested. -/
def ofNames (type : ObjectType ν) (names : List String) : Except SelectFailure (Selection ν) :=
  let unknown := names.filter fun name => Name.ofText name ∉ type.fieldNames
  if unknown ≠ [] then .error (.unknownFields ⟨Name.shown type.name, unknown⟩)
  else if !type.fieldNames.all Name.isKey then .error .unusableName
  else if names = [] then .ok (all type)
  else .ok ⟨type, type.fieldNames.filter (· ∈ names.map Name.ofText)⟩

def of (type : ObjectType ν) (request : Option (List String)) :
    Except SelectFailure (Selection ν) :=
  ofNames type (request.getD [])

def isAll (s : Selection ν) : Bool :=
  s.selected = s.type.fieldNames

def key (s : Selection ν) : String :=
  Fragment.key (Name.shown s.type.name)

def describe (s : Selection ν) : String :=
  "SelectionSet(" ++ Name.literal s.type.name ++ ", ["
    ++ Text.join ", " (s.selected.map Name.literal) ++ "])"

/-- A field in a fragment: a bare name, or a name around the spread of its type's fragment. -/
def renderField (field : Field ν) : Except RenderFailure ν :=
  let type := field.type.innermost
  if type.kind.isLeaf then .ok field.name
  else if type.kind.isAbstract then
    .error (.abstractField ⟨type.kind, Name.shown type.name, Name.shown field.name⟩)
  else .ok (Name.ofText (Text.unlines [Name.shown field.name ++ " \x7b",
    indent ++ Fragment.spread (Fragment.key (Name.shown type.name)), "\x7d"]))

/-- The selected fields, each as it stands in the fragment. A selected name that is no field of the
type would be lost. -/
def renderFields (s : Selection ν) : Except RenderFailure (List ν) :=
  s.selected.mapM fun name =>
    match s.type.field? name with
    | some field => renderField field
    | none => .error (.lostField (Name.shown s.type.name) (Name.shown name))

def fieldLines (rendered : ν) : Except RenderFailure (List String) :=
  match Name.text? rendered with
  | some text => .ok ((Text.lines text).map (indent ++ ·))
  | none => .error .nameNotText

def fragment (s : Selection ν) : Except RenderFailure String := do
  let fields ← (← s.renderFields).mapM fieldLines
  return Text.unlines (("fragment " ++ s.key ++ " on " ++ Name.shown s.type.name ++ " \x7b")
    :: fields.flatten ++ ["\x7d"])

end Selection

end GraphqlRequests
