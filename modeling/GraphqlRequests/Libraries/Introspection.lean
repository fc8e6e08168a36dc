import GraphqlRequests.Libraries.Sdl.Standard
import GraphqlRequests.Load
import GraphqlRequests.Sdl.Reader

/-!
# Checking introspection results

The check that the command line runs with: a second look at the value that a schema was decoded from.
Are all types complete, and does every name lead to a type that fits where it stands?
-/

namespace GraphqlRequests.Introspection

namespace Verdict

def and : Verdict → Verdict → Verdict
  | .pass, v => v
  | v, _ => v

def all {α : Type} (check : α → Verdict) : List α → Verdict
  | [] => .pass
  | a :: rest => (check a).and (all check rest)

def of (passed : Bool) : Verdict :=
  if passed then .pass else .fail

end Verdict

/-- The kinds of the types, by name. A standard type counts as itself, whatever is said of it. -/
abbrev Kinds := List (String × TypeKind)

def isStandard (name : Json) : Bool :=
  name.string?.any fun s => (Sdl.Standard.type? s).isSome

def claimedKind? (type : Json) : Option TypeKind :=
  (type.get? "kind").bind Json.string? |>.bind TypeKind.ofName?

namespace Kinds

def ofTypes (types : List Json) : Kinds :=
  types.filterMap fun type => do
    let name ← (type.get? "name").bind Json.string?
    match Sdl.Standard.type? name with
    | some standard => some (name, standard.kind)
    | none => return (name, ← claimedKind? type)

end Kinds

def isName (value : Json) : Bool :=
  value.string?.any fun s => Sdl.isName s.toList

/-! ### References -/

/-- Where a reference leads: to a type of a kind, by its name, perhaps through wrappers of which the
outermost says whether null is left out. -/
structure Found where
  kind : TypeKind
  wrapped : Bool := false
  nonNull : Bool := false

def kindAt? (kinds : Kinds) (members : List (String × Json)) : Option TypeKind := do
  kinds.lookup (← (Json.member? "name" members).bind Json.string?)

mutual

def follow (kinds : Kinds) : Json → Except Verdict Found
  | .object members =>
    let kind := Json.member? "kind" members
    if kind = some (.string "LIST") then
      (followInner kinds members).map fun found => ⟨found.kind, true, false⟩
    else if kind = some (.string "NON_NULL") then
      match followInner kinds members with
      | .ok found => if found.nonNull then .error .fail else .ok ⟨found.kind, true, true⟩
      | .error verdict => .error verdict
    else match kindAt? kinds members with
      | some kind => .ok { kind }
      | none => .error .fail
  | _ => .error .notAnObject

def followInner (kinds : Kinds) : List (String × Json) → Except Verdict Found
  | [] => .error .fail
  | (key, value) :: rest =>
    if key = "ofType" then if value.isPresent then follow kinds value else .error .fail
    else followInner kinds rest

end

def checkRef (kinds : Kinds) (fits : Found → Bool) (ref : Json) : Verdict :=
  match follow kinds ref with
  | .ok found => .of (fits found)
  | .error verdict => verdict

def checkBare (kinds : Kinds) (kind : TypeKind) : Json → Verdict :=
  checkRef kinds fun found => !found.wrapped && found.kind = kind

/-! ### Parts of types -/

def checkList (key : String) (check : Json → Verdict) (value : Json) : Verdict :=
  match (value.get? key).map parts with
  | some (.ok items) => .all check items
  | _ => .fail

/-- A default has to be the text of a literal. -/
def checkDefault (value : Json) : Bool :=
  match value.getD "defaultValue" with
  | .null => true
  | .string s => (Sdl.readLiteral s).isSome
  | _ => false

def hasMember (key : String) (value : Json) : Bool :=
  (value.get? key).isSome

def checkInput (kinds : Kinds) (value : Json) : Verdict :=
  Verdict.of (hasMember "name" value && hasMember "type" value)
    |>.and (checkRef kinds (·.kind.isInput) (value.getD "type"))
    |>.and (.of (checkDefault value))

def checkNamedInput (kinds : Kinds) (value : Json) : Verdict :=
  (checkInput kinds value).and (.of (isName (value.getD "name")))

def checkField (kinds : Kinds) (value : Json) : Verdict :=
  Verdict.of (isName (value.getD "name"))
    |>.and (checkRef kinds (·.kind.isOutput) (value.getD "type"))
    |>.and (checkList "args" (checkNamedInput kinds) value)

def checkInterfaces (kinds : Kinds) (optional : Bool) (value : Json) : Verdict :=
  if optional && value.getD "interfaces" = .null then .pass
  else checkList "interfaces" (checkBare kinds .interface) value

def checkValue (value : Json) : Verdict :=
  let name := value.getD "name"
  .of (isName name && !(name ∈ [.string "true", .string "false", .string "null"]))

/-- Can the type be set up? Its name must be one, and the parts that cannot be left for later must
be there; of enum values, the names have to be fit to look up by. Only scalars, objects and
enums may have the names of standard types. -/
def checkOutline (type : Json) : Bool :=
  let name := type.getD "name"
  match claimedKind? type with
  | some .scalar | some .object => isName name
  | some .interface => isName name && !isStandard name
  | some .union => isName name && !isStandard name && type.getD "possibleTypes" ≠ .null
  | some .enum =>
    isName name && match (type.get? "enumValues").map parts with
      | some (.ok values) => isStandard name || values.all fun v => (v.getD "name").isKey
      | _ => isStandard name && type.getD "enumValues" ≠ .null
  | some .inputObject => isName name && !isStandard name && type.getD "inputFields" ≠ .null
  | none => false

def checkParts (kinds : Kinds) (type : Json) : Verdict :=
  if isStandard (type.getD "name") then .pass
  else match claimedKind? type with
    | some .object =>
      (checkInterfaces kinds false type).and (checkList "fields" (checkField kinds) type)
    | some .interface =>
      (checkInterfaces kinds true type).and (checkList "fields" (checkField kinds) type)
    | some .union => checkList "possibleTypes" (checkBare kinds .object) type
    | some .enum => checkList "enumValues" checkValue type
    | some .inputObject => checkList "inputFields" (checkNamedInput kinds) type
    | _ => .pass

/-! ### Roots and directives -/

def checkRoot (kinds : Kinds) (root : Json) : Verdict :=
  match root with
  | .null => .pass
  | root => checkBare kinds .object root

def isLocation (value : Json) : Bool :=
  value.string?.any (· ∈ Sdl.Reader.locations)

/-- A directive has arguments and locations. The names are looked at last. -/
def checkDirective (kinds : Kinds) (directive : Json) : Verdict :=
  match directive with
  | .object _ =>
    Verdict.of (directive.getD "args" ≠ .null && hasMember "name" directive)
      |>.and (checkList "locations" (fun _ => .pass) directive)
      |>.and (checkList "args" (checkInput kinds) directive)
      |>.and (.of (isName (directive.getD "name")))
      |>.and (checkList "locations" (fun location => .of (isLocation location)) directive)
      |>.and (checkList "args" (fun a => .of (isName (a.getD "name"))) directive)
  | _ => .notAnObject

def checkDirectives (kinds : Kinds) (value : Json) : Verdict :=
  if (value.getD "directives").isPresent then checkList "directives" (checkDirective kinds) value
  else .pass

def Verdict.settled : Verdict → Verdict
  | .pass => .pass
  | _ => .fail

/-- Check the value that holds the types: the outlines of all types, then the roots and the
directives, and the parts of the types at last. -/
def check (value : Json) : Verdict :=
  match (value.get? "types").map parts with
  | some (.ok types) =>
    let kinds := Kinds.ofTypes types
    Verdict.of (types.all checkOutline)
      |>.and (.all (fun key => checkRoot kinds (value.getD key))
        ["queryType", "mutationType", "subscriptionType"])
      |>.and (checkDirectives kinds value)
      |>.and (Verdict.all (checkParts kinds) types).settled
  | _ => .fail

end GraphqlRequests.Introspection
