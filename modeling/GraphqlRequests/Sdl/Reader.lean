import GraphqlRequests.Sdl.Document
import GraphqlRequests.Sdl.Token

/-!
# Reading the schema language

A recursive descent over the tokens. `Reader α` reads an `α` from the front of a token list.
Literals, type references and selections nest, but only to a fixed depth.
-/

namespace GraphqlRequests.Sdl

/-- Reads from the front of a list of tokens. -/
abbrev Reader := StateT (List Token) Option

namespace Reader

variable {α : Type}

def peek : Reader (Option Token) := do
  return (← get).head?

def next : Reader Token := do
  match ← get with
  | t :: rest => do
    set rest
    return t
  | [] => failure

def token (t : Token) : Reader Unit := do
  if (← next) ≠ t then failure

def optional (t : Token) : Reader Bool := do
  if (← peek) = some t then
    let _ ← next
    return true
  else return false

def mark (text : String) : Reader Unit :=
  token (.mark text)

def name : Reader String := do
  match ← next with
  | .name s => return s
  | _ => failure

def untilMark (close : String) (item : Reader α) : Nat → Reader (List α)
  | 0 => failure
  | n + 1 => do
    let first ← item
    if ← optional (.mark close) then return [first]
    else return first :: (← untilMark close item n)

def between (opening close : String) (item : Reader α) : Reader (List α) := do
  mark opening
  untilMark close item (← get).length

def optionalBetween (opening close : String) (item : Reader α) : Reader (List α) := do
  if (← peek) = some (.mark opening) then between opening close item else return []

def anyBetween (opening close : String) (item : Reader α) : Reader (List α) := do
  mark opening
  if ← optional (.mark close) then return []
  else untilMark close item (← get).length

def separated (mark : String) (item : Reader α) : Nat → Reader (List α)
  | 0 => failure
  | n + 1 => do
    let first ← item
    if ← optional (.mark mark) then return first :: (← separated mark item n)
    else return [first]

def delimited (mark : String) (item : Reader α) : Reader (List α) := do
  let _ ← optional (.mark mark)
  separated mark item (← get).length

/-! ### Literals and types -/

/-- Lists, objects, list types and selection sets may stand in each other this deep. -/
def mostNested : Nat := 200

def plainLiteral (withVariables : Bool) : Reader Literal := do
  match ← next with
  | .int s => return .int s
  | .float s => return .float s
  | .text s => return .string s false
  | .block s => return .string s true
  | .name "true" => return .boolean true
  | .name "false" => return .boolean false
  | .name "null" => return .null
  | .name s => return .enum s
  | .mark "$" => if withVariables then return .variable (← name) else failure
  | .mark _ => failure

def literalTo (withVariables : Bool) : Nat → Reader Literal
  | 0 => plainLiteral withVariables
  | left + 1 => do
    match ← peek with
    | some (.mark "[") => return .list (← anyBetween "[" "]" (literalTo withVariables left))
    | some (.mark "\x7b") =>
      return .object (← anyBetween "\x7b" "\x7d" do
        let key ← name
        mark ":"
        return (key, ← literalTo withVariables left))
    | _ => plainLiteral withVariables

def literal (withVariables : Bool) : Reader Literal :=
  literalTo withVariables mostNested

def namedRef : Reader Ref := do
  return .named (← name)

def refTo : Nat → Reader Ref
  | 0 => marked namedRef
  | left + 1 => marked do
    if ← optional (.mark "[") then do
      let item ← refTo left
      mark "]"
      return .list item
    else namedRef
where
  marked (inner : Reader Ref) : Reader Ref := do
    let inner ← inner
    if ← optional (.mark "!") then return .nonNull inner else return inner

def ref : Reader Ref :=
  refTo mostNested

def argument (withVariables : Bool) (left : Nat) : Reader (String × Literal) := do
  let key ← name
  mark ":"
  return (key, ← literalTo withVariables left)

def directivesTo (withVariables : Bool) (left : Nat) : Nat → Reader (List Directive)
  | 0 => failure
  | n + 1 => do
    if ← optional (.mark "@") then do
      let name ← name
      let arguments ← optionalBetween "(" ")" (argument withVariables left)
      return ⟨name, arguments⟩ :: (← directivesTo withVariables left n)
    else return []

def directivesWithin (withVariables : Bool) (left : Nat) : Reader (List Directive) := do
  directivesTo withVariables left ((← get).length + 1)

def directives : Reader (List Directive) :=
  directivesWithin false mostNested

/-! ### Definitions -/

def description : Reader (Option String) := do
  match ← peek with
  | some (.text s) | some (.block s) => do
    let _ ← next
    return some s
  | _ => return none

def inputDefinition : Reader InputDefinition := do
  let description ← description
  let name ← name
  mark ":"
  let type ← ref
  let default ← if ← optional (.mark "=") then (some <$> literal false) else pure none
  let directives ← directives
  return { description, name, type, default, directives }

def fieldDefinition : Reader FieldDefinition := do
  let description ← description
  let name ← name
  let arguments ← optionalBetween "(" ")" inputDefinition
  mark ":"
  let type ← ref
  let directives ← directives
  return { description, name, arguments, type, directives }

def valueDefinition : Reader ValueDefinition := do
  let description ← description
  let name ← name
  if name ∈ ["true", "false", "null"] then failure
  let directives ← directives
  return { description, name, directives }

def interfaces : Reader (List String) := do
  if ← optional (.name "implements") then delimited "&" name else return []

def members : Reader (List String) := do
  if ← optional (.mark "=") then delimited "|" name else return []

def typeParts : TypeKind → Reader TypeParts
  | .scalar => do return { directives := ← directives }
  | .object | .interface => do
    let interfaces ← interfaces
    let directives ← directives
    let fields ← optionalBetween "\x7b" "\x7d" fieldDefinition
    return { interfaces, directives, fields }
  | .union => do
    let directives ← directives
    let members ← members
    return { directives, members }
  | .enum => do
    let directives ← directives
    let values ← optionalBetween "\x7b" "\x7d" valueDefinition
    return { directives, values }
  | .inputObject => do
    let directives ← directives
    let inputs ← optionalBetween "\x7b" "\x7d" inputDefinition
    return { directives, inputs }

def kindOf? : String → Option TypeKind
  | "scalar" => some .scalar
  | "type" => some .object
  | "interface" => some .interface
  | "union" => some .union
  | "enum" => some .enum
  | "input" => some .inputObject
  | _ => none

def operationOf? : String → Option OperationKind
  | "query" => some .query
  | "mutation" => some .mutation
  | "subscription" => some .subscription
  | _ => none

def root : Reader (OperationKind × String) := do
  match operationOf? (← name) with
  | none => failure
  | some kind => do
    mark ":"
    return (kind, ← name)

def locations : List String :=
  ["QUERY", "MUTATION", "SUBSCRIPTION", "FIELD", "FRAGMENT_DEFINITION", "FRAGMENT_SPREAD",
    "INLINE_FRAGMENT", "VARIABLE_DEFINITION", "SCHEMA", "SCALAR", "OBJECT", "FIELD_DEFINITION",
    "ARGUMENT_DEFINITION", "INTERFACE", "UNION", "ENUM", "ENUM_VALUE", "INPUT_OBJECT",
    "INPUT_FIELD_DEFINITION", "FRAGMENT_VARIABLE_DEFINITION", "DIRECTIVE_DEFINITION"]

def location : Reader String := do
  let name ← name
  if name ∈ locations then return name else failure

def directiveDefinition : Reader DirectiveDefinition := do
  mark "@"
  let name ← name
  let arguments ← optionalBetween "(" ")" inputDefinition
  let directives ← directives
  let repeatable ← optional (.name "repeatable")
  token (.name "on")
  let locations ← delimited "|" location
  return { name, arguments, directives, repeatable, locations }

def addsSomething (parts : TypeParts) : Bool :=
  !(parts.interfaces.isEmpty && parts.directives.isEmpty && parts.fields.isEmpty
    && parts.members.isEmpty && parts.values.isEmpty && parts.inputs.isEmpty)

def extension : Reader Definition := do
  let word ← name
  if word = "schema" then do
    let directives ← directives
    let roots ← optionalBetween "\x7b" "\x7d" root
    if directives.isEmpty && roots.isEmpty then failure
    return .schemaExtension { directives, roots }
  else if word = "directive" then do
    mark "@"
    let name ← name
    let directives ← directives
    if directives.isEmpty then failure
    return .directiveExtension name directives
  else match kindOf? word with
    | none => failure
    | some kind => do
      let name ← name
      let parts ← typeParts kind
      if addsSomething parts then return .typeExtension { kind, name, parts } else failure

/-! ### Operations and fragments -/

def condition : Reader Uses := do
  return { types := [← name] }

def usesAt (location : String) (left : Nat) : Reader Uses := do
  return { sites := [⟨location, ← directivesWithin true left⟩] }

def selectionsTo : Nat → Reader Uses
  | 0 => failure
  | left + 1 => do
    return Uses.join (← between "\x7b" "\x7d" do
      if ← optional (.mark "...") then
        match ← peek with
        | some (.name "on") => do
          let _ ← next
          let condition ← condition
          let uses ← usesAt "INLINE_FRAGMENT" left
          return condition ++ uses ++ (← selectionsTo left)
        | some (.name _) => do
          let _ ← next
          usesAt "FRAGMENT_SPREAD" left
        | _ => do
          let uses ← usesAt "INLINE_FRAGMENT" left
          return uses ++ (← selectionsTo left)
      else do
        let _ ← name
        if ← optional (.mark ":") then
          let _ ← name
        let arguments ← optionalBetween "(" ")" (argument true left)
        let uses ← usesAt "FIELD" left
        let uses : Uses := { uses with arguments := [arguments] }
        if (← peek) = some (.mark "\x7b") then return uses ++ (← selectionsTo left)
        else return uses)

def selections : Reader Uses :=
  selectionsTo mostNested

def variableDefinition : Reader Uses := do
  let _ ← description
  mark "$"
  let _ ← name
  mark ":"
  let type ← ref
  let default ← if ← optional (.mark "=") then (some <$> literal false) else pure none
  let directives ← directives
  return { types := [type.innermost], defaults := default.toList
           sites := [⟨"VARIABLE_DEFINITION", directives⟩] }

def operation (kind : OperationKind) : Reader Definition := do
  if let some (.name _) ← peek then
    let _ ← next
  let declared ← optionalBetween "(" ")" variableDefinition
  let uses ← usesAt kind.keyword.toUpper mostNested
  return .executable (Uses.join declared ++ uses ++ (← selections))

def fragment : Reader Definition := do
  if (← name) = "on" then failure
  token (.name "on")
  let condition ← condition
  let uses ← usesAt "FRAGMENT_DEFINITION" mostNested
  return .executable (condition ++ uses ++ (← selections))

/-- One definition. A description may stand before any but a short query and an extension. -/
def definition : Reader Definition := do
  if (← peek) = some (.mark "\x7b") then return .executable (← selections)
  let description ← description
  let word ← name
  match kindOf? word, operationOf? word with
  | some kind, _ => do
    let name ← name
    return .type { description, kind, name, parts := ← typeParts kind }
  | none, some kind => operation kind
  | none, none =>
    if word = "schema" then do
      let directives ← directives
      let roots ← between "\x7b" "\x7d" root
      return .schema { directives, roots }
    else if word = "directive" then return .directive (← directiveDefinition)
    else if word = "fragment" then fragment
    else if description.isSome then failure
    else if word = "extend" then extension
    else failure

def definitions : Nat → Reader Document
  | 0 => failure
  | n + 1 => do
    let first ← definition
    if (← get).isEmpty then return [first] else return first :: (← definitions n)

end Reader

def readDocument (text : String) : Option Document := do
  let tokens ← tokens? text
  (Reader.definitions tokens.length).run' tokens

def readLiteral (text : String) : Option Literal := do
  let tokens ← tokens? text
  let (literal, rest) ← (Reader.literal false).run tokens
  if rest.isEmpty then some literal else none

end GraphqlRequests.Sdl
