import GraphqlRequests.Json.Writer
import GraphqlRequests.Schema

/-!
# Introspection results

Decoding an introspection result into a schema. Keys are looked up in a fixed order, and the first
thing found wrong is reported. Names, descriptions, deprecation and defaults are taken as they are.
-/

namespace GraphqlRequests.Introspection

inductive Malformed where
  | missingKey (key : String)
  | wrongShape
  | unknownKind (value : Json)
  | returnsInput (owner field : Json)
  | takesOutput (name : Json)
  deriving DecidableEq, Repr

namespace Malformed

def named (className text : String) : String :=
  className ++ "(" ++ Text.quoted text ++ ")"

def message : Malformed → String
  | .missingKey key => named "KeyError" key
  | .wrongShape => "TypeError"
  | .unknownKind value => named "ValueError" (value.literal ++ " is not a valid TypeKind")
  | .returnsInput owner field =>
    named "ValueError"
      ("Field " ++ owner.display ++ "." ++ field.display ++ " returns an input type")
  | .takesOutput name =>
    named "ValueError" ("Input value '" ++ name.display ++ "' has an output type")

end Malformed

/-- Why no schema could be made of a value: it is no object, it is malformed, its types do not make
a schema, or an object, enum or input object has a name that is no text. -/
inductive Failure where
  | notAnObject
  | malformed (cause : Malformed)
  | flawed (flaw : Schema.Flaw Json)
  | namelessType
  deriving DecidableEq, Repr

abbrev Decode := Except Malformed

def need (key : String) : Json → Decode Json
  | .object members =>
    match Json.member? key members with
    | some value => .ok value
    | none => .error (.missingKey key)
  | _ => .error .wrongShape

/-- The parts of a value that is walked through: items, keys, or single characters. -/
def parts : Json → Decode (List Json)
  | .array items => .ok items
  | .object members => .ok (members.map fun m => .string m.1)
  | .string s => .ok (s.toList.map fun c => .string (String.singleton c))
  | .broken codePoints => .ok (codePoints.map fun n => .ofCodePoints [n])
  | _ => .error .wrongShape

def optionalParts (key : String) (value : Json) : Decode (List Json) :=
  let found := value.getD key
  if found.isPresent then parts found else .ok []

def kind (value : Json) : Decode TypeKind := do
  let found ← need "kind" value
  match found.string?.bind TypeKind.ofName? with
  | some kind => .ok kind
  | none => .error (.unknownKind found)

mutual

/-- A reference: wrappers with the rest under `ofType`, ended by a kind and a name. -/
def typeRef : Json → Decode (TypeRef (NamedRef Json))
  | .object members => do
    let found ← need "kind" (.object members)
    if found = .string "NON_NULL" then return .nonNull (← innerRef members)
    else if found = .string "LIST" then return .list (← innerRef members)
    else do
      let kind ← kind (.object members)
      let name ← need "name" (.object members)
      return .named ⟨kind, name⟩
  | _ => .error .wrongShape

def innerRef : List (String × Json) → Decode (TypeRef (NamedRef Json))
  | [] => .error (.missingKey "ofType")
  | (key, value) :: rest => if key = "ofType" then typeRef value else innerRef rest

end

def inputValue (value : Json) : Decode (InputValue Json) := do
  let type ← typeRef (← need "type" value)
  if !type.innermost.kind.isInput then
    throw (.takesOutput (← need "name" value))
  let name ← need "name" value
  return ⟨name, type, value.getD "description", value.getD "defaultValue"⟩

def deprecated (value : Json) : Json :=
  (value.get? "isDeprecated").getD (.bool false)

def field (owner value : Json) : Decode (Field Json) := do
  let type ← typeRef (← need "type" value)
  if !type.innermost.kind.isOutput then
    throw (.returnsInput owner (← need "name" value))
  let name ← need "name" value
  let arguments ← (← optionalParts "args" value).mapM inputValue
  return ⟨name, type, arguments, value.getD "description", deprecated value,
    value.getD "deprecationReason"⟩

def enumValue (value : Json) : Decode (EnumValue Json) := do
  let name ← need "name" value
  return ⟨name, value.getD "description", deprecated value, value.getD "deprecationReason"⟩

def body (name value : Json) : TypeKind → Decode (TypeBody Json)
  | .scalar => return .scalar
  | .object => do
    let fields ← (← optionalParts "fields" value).mapM (field name)
    let interfaces ← (← optionalParts "interfaces" value).mapM (need "name")
    return .object fields interfaces
  | .interface => do
    let fields ← (← optionalParts "fields" value).mapM (field name)
    let interfaces ← (← optionalParts "interfaces" value).mapM (need "name")
    let possibleTypes ← (← optionalParts "possibleTypes" value).mapM (need "name")
    return .interface fields interfaces possibleTypes
  | .union => return .union (← (← optionalParts "possibleTypes" value).mapM (need "name"))
  | .enum => return .enum (← (← optionalParts "enumValues" value).mapM enumValue)
  | .inputObject => return .inputObject (← (← optionalParts "inputFields" value).mapM inputValue)

def namedType (value : Json) : Decode (NamedType Json) := do
  let kind ← kind value
  let name ← need "name" value
  return ⟨name, value.getD "description", ← body name value kind⟩

def rootName (key : String) (value : Json) : Decode (Option Json) := do
  let root := value.getD key
  if !root.isPresent then return none
  let name ← need "name" root
  return if name = .null then none else some name

/-- The kinds of types that are counted once a schema is loaded. -/
def isCounted : TypeKind → Bool
  | .object | .enum | .inputObject => true
  | _ => false

/-- The value that holds the types: under `data`, where that is an object, and under `__schema`,
where those are present. -/
def unwrap (value : Json) : Json :=
  let value := match value.get? "data" with
    | some (.object members) => Json.object members
    | _ => value
  (value.get? "__schema").getD value

def failureOf : Schema.Flaw Json → Failure
  | .badRoot kind name =>
    if name.isKey then .flawed (.badRoot kind name) else .malformed .wrongShape
  | flaw => .flawed flaw

/-- Put the schema together. A type whose name cannot be looked up by stops the search for
duplicates. -/
def assemble (types : List (NamedType Json)) (query mutation subscription : Option Json) :
    Except Failure (Schema Json) :=
  let usable := types.takeWhile (·.name.isKey)
  if usable.length < types.length then
    match Schema.duplicate? [] usable with
    | some name => .error (.flawed (.duplicateType name))
    | none => .error (.malformed .wrongShape)
  else
    match Schema.build types query mutation subscription with
    | .error flaw => .error (failureOf flaw)
    | .ok schema =>
      if types.all fun t => !isCounted t.kind || Name.isText t.name then .ok schema
      else .error .namelessType

def contents (value : Json) :
    Decode (List (NamedType Json) × Option Json × Option Json × Option Json) := do
  let types ← (← parts (← need "types" value)).mapM namedType
  let query ← rootName "queryType" value
  let mutation ← rootName "mutationType" value
  let subscription ← rootName "subscriptionType" value
  return (types, query, mutation, subscription)

/-- The schema of an introspection result: a full response, its data, or the bare object under
`__schema`. -/
def decode : Json → Except Failure (Schema Json)
  | .object members =>
    match contents (unwrap (.object members)) with
    | .error cause => .error (.malformed cause)
    | .ok (types, query, mutation, subscription) => assemble types query mutation subscription
  | _ => .error .notAnObject

end GraphqlRequests.Introspection
