import GraphqlRequests.Sdl.Reader

/-!
# Executable documents

Operations and fragments, as the grammar of the query language has them: operations with variables,
fields with arguments, fragments by key or in place, and directives on all of these. A reader for
the whole grammar, in which selections, literals and types nest as deep as the text goes.
-/

namespace GraphqlRequests.Executable

open Sdl (Token Literal Directive Ref Reader)

/-- A field, perhaps with a label for its result; the fragment with a key; a fragment in place. -/
inductive Selection where
  | field (label : Option String) (name : String) (arguments : List (String × Literal))
      (directives : List Directive) (selections : List Selection)
  | spread (key : String) (directives : List Directive)
  | inline (type : Option String) (directives : List Directive) (selections : List Selection)

structure Variable where
  name : String
  type : Ref
  default : Option Literal := none
  directives : List Directive := []

structure Operation where
  kind : OperationKind
  name : Option String := none
  variableDefinitions : List Variable := []
  directives : List Directive := []
  selections : List Selection

structure Fragment where
  key : String
  type : String
  directives : List Directive := []
  selections : List Selection

inductive Definition where
  | operation (operation : Operation)
  | fragment (fragment : Fragment)

abbrev Document := List Definition

/-! ### Reading -/

def argument (withVariables : Bool) : Reader (String × Literal) := do
  Reader.argument withVariables (← get).length

def directives (withVariables : Bool) : Reader (List Directive) := do
  Reader.directivesWithin withVariables (← get).length

def field (inside : Reader (List Selection)) : Reader Selection := do
  let first ← Reader.name
  let labelled ← if ← Reader.optional (.mark ":") then some <$> Reader.name else pure none
  let arguments ← Reader.optionalBetween "(" ")" (argument true)
  let directives ← directives true
  let selections ← if (← Reader.peek) = some (.mark "\x7b") then inside else pure []
  match labelled with
  | some name => return .field (some first) name arguments directives selections
  | none => return .field none first arguments directives selections

def inline (type : Option String) (inside : Reader (List Selection)) : Reader Selection := do
  let directives ← directives true
  return .inline type directives (← inside)

def selection (inside : Reader (List Selection)) : Reader Selection := do
  if ← Reader.optional (.mark "...") then
    match ← Reader.peek with
    | some (.name "on") => do
      let _ ← Reader.next
      inline (some (← Reader.name)) inside
    | some (.name key) => do
      let _ ← Reader.next
      return .spread key (← directives true)
    | _ => inline none inside
  else field inside

def selectionsTo : Nat → Reader (List Selection)
  | 0 => failure
  | left + 1 => Reader.between "\x7b" "\x7d" (selection (selectionsTo left))

def selections : Reader (List Selection) := do
  selectionsTo (← get).length

def defaultLiteral : Reader (Option Literal) := do
  if ← Reader.optional (.mark "=") then some <$> Reader.literalTo false (← get).length
  else return none

def variableDefinition : Reader Variable := do
  Reader.mark "$"
  let name ← Reader.name
  Reader.mark ":"
  let type ← Reader.refTo (← get).length
  let default ← defaultLiteral
  let directives ← directives false
  return { name, type, default, directives }

def operation (kind : OperationKind) : Reader Operation := do
  let name ← match ← Reader.peek with
    | some (.name name) => do
      let _ ← Reader.next
      pure (some name)
    | _ => pure none
  let variableDefinitions ← Reader.optionalBetween "(" ")" variableDefinition
  let directives ← directives true
  return { kind, name, variableDefinitions, directives, selections := ← selections }

def fragment : Reader Fragment := do
  let key ← Reader.name
  if key = "on" then failure
  Reader.token (.name "on")
  let type ← Reader.name
  let directives ← directives true
  return { key, type, directives, selections := ← selections }

def definition : Reader Definition := do
  if (← Reader.peek) = some (.mark "\x7b") then
    return .operation { kind := .query, selections := ← selections }
  let word ← Reader.name
  match Reader.operationOf? word with
  | some kind => return .operation (← operation kind)
  | none => if word = "fragment" then return .fragment (← fragment) else failure

def definitions : Nat → Reader Document
  | 0 => failure
  | left + 1 => do
    let first ← definition
    if (← get).isEmpty then return [first] else return first :: (← definitions left)

def read (text : String) : Option Document := do
  let tokens ← Sdl.tokens? text
  (definitions tokens.length).run' tokens

end GraphqlRequests.Executable
