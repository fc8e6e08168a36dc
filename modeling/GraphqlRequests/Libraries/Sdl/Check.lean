import GraphqlRequests.Libraries.Sdl.Standard

/-!
# Checking documents

Whether a document makes a schema: first the rules on the document as written, then the arguments of
the directives that the schema keeps, then the rules on the types themselves.
-/

namespace GraphqlRequests.Sdl

def allDistinct : List String → Bool
  | [] => true
  | name :: rest => name ∉ rest && allDistinct rest

def isKept (name : String) : Bool :=
  isInternalName name

namespace Document

/-! ### The document as written -/

def allTypes (document : Document) : List TypeDefinition :=
  document.types ++ document.typeExtensions

def allSchemas (document : Document) : List SchemaDefinition :=
  document.schemas ++ document.schemaExtensions

/-- The directives that can be used: the standard ones, replaced or joined by those defined. -/
def knownDirectives (document : Document) : List DirectiveDefinition :=
  document.directives ++ Standard.directives

def directive? (document : Document) (name : String) : Option DirectiveDefinition :=
  document.knownDirectives.find? (·.name = name)

def isKnownType (document : Document) (name : String) : Bool :=
  document.types.any (·.name = name) || (Standard.type? name).isSome

def typeLocation : TypeKind → String
  | .scalar => "SCALAR"
  | .object => "OBJECT"
  | .interface => "INTERFACE"
  | .union => "UNION"
  | .enum => "ENUM"
  | .inputObject => "INPUT_OBJECT"

def inputSites (location : String) (inputs : List InputDefinition) : List Site :=
  inputs.map fun i => ⟨location, i.directives⟩

def partSites (inputs : String) (parts : TypeParts) : List Site :=
  (parts.fields.flatMap fun f =>
      ⟨"FIELD_DEFINITION", f.directives⟩ :: inputSites "ARGUMENT_DEFINITION" f.arguments)
    ++ (parts.values.map fun v => ⟨"ENUM_VALUE", v.directives⟩)
    ++ inputSites inputs parts.inputs

/-- The directives inside types and on arguments of directives. Input fields that an extension adds
count as arguments. -/
def innerSites (document : Document) : List Site :=
  (document.types.flatMap fun t => partSites "INPUT_FIELD_DEFINITION" t.parts)
    ++ (document.typeExtensions.flatMap fun t => partSites "ARGUMENT_DEFINITION" t.parts)
    ++ (document.directives.flatMap fun d => inputSites "ARGUMENT_DEFINITION" d.arguments)

def directiveSites (document : Document) : List (String × Site) :=
  (document.directives.map fun d => (d.name, ⟨"DIRECTIVE_DEFINITION", d.directives⟩))
    ++ (document.directiveExtensions.map fun e => (e.1, ⟨"DIRECTIVE_DEFINITION", e.2⟩))

def sites (document : Document) : List Site :=
  (document.allSchemas.map fun s => ⟨"SCHEMA", s.directives⟩)
    ++ (document.allTypes.map fun t => ⟨typeLocation t.kind, t.parts.directives⟩)
    ++ (document.directiveSites.map Prod.snd)
    ++ document.innerSites
    ++ document.uses.sites

def isRequired (input : InputDefinition) : Bool :=
  !input.type.isNullable && input.default.isNone

def checkDirective (document : Document) (location : String) (use : Directive) : Bool :=
  match document.directive? use.name with
  | none => false
  | some definition =>
    location ∈ definition.locations
      && use.arguments.all (fun a => definition.arguments.any (·.name = a.1))
      && definition.arguments.all fun i => !isRequired i || use.arguments.any (·.1 = i.name)

def checkRepetition (document : Document) (uses : List Directive) : Bool :=
  allDistinct ((uses.filter fun u => (document.directive? u.name).any (!·.repeatable)).map (·.name))

def together (name : String) (sites : List (String × List Directive)) : List Directive :=
  (sites.filter (·.1 = name)).flatMap Prod.snd

/-- The lists of directives that count as standing in one place: a definition and its extensions are
one place. -/
def places (document : Document) : List (List Directive) :=
  let types := document.allTypes.map fun t => (t.name, t.parts.directives)
  let directives := document.directiveSites.map fun s => (s.1, s.2.directives)
  (document.allSchemas.flatMap (·.directives))
    :: (types.map fun t => together t.1 types)
    ++ (directives.map fun d => together d.1 directives)
    ++ ((document.innerSites ++ document.uses.sites).map (·.directives))

mutual

def distinctFields : Literal → Bool
  | .list items => distinctFieldsAll items
  | .object fields => allDistinct (fields.map Prod.fst) && distinctFieldsIn fields
  | _ => true

def distinctFieldsAll : List Literal → Bool
  | [] => true
  | item :: items => distinctFields item && distinctFieldsAll items

def distinctFieldsIn : List (String × Literal) → Bool
  | [] => true
  | (_, value) :: fields => distinctFields value && distinctFieldsIn fields

end

def allInputs (document : Document) : List InputDefinition :=
  (document.allTypes.flatMap fun t => (t.parts.fields.flatMap (·.arguments)) ++ t.parts.inputs)
    ++ document.directives.flatMap (·.arguments)

def allArguments (document : Document) : List (List (String × Literal)) :=
  (document.sites.flatMap fun s => s.directives.map (·.arguments)) ++ document.uses.arguments

def allLiterals (document : Document) : List Literal :=
  document.allInputs.filterMap (·.default) ++ document.uses.defaults
    ++ (document.allArguments.flatMap fun arguments => arguments.map Prod.snd)

def namedTypes (document : Document) : List String :=
  (document.allSchemas.flatMap fun s => s.roots.map Prod.snd)
    ++ (document.allTypes.flatMap fun t =>
      t.parts.interfaces ++ t.parts.members ++ t.parts.fields.map (·.type.innermost))
    ++ document.allInputs.map (·.type.innermost)

def extendedTypes (document : Document) : List TypeDefinition :=
  document.types.map (·.extended document.typeExtensions)

def isWellWritten (document : Document) : Bool :=
  document.schemas.length ≤ 1
    && allDistinct (document.allSchemas.flatMap fun s => s.roots.map fun r => r.1.keyword)
    && allDistinct (document.types.map (·.name))
    && allDistinct (document.directives.map (·.name))
    && (document.typeExtensions.all fun e =>
      document.types.any fun t => t.name = e.name && t.kind = e.kind)
    && (document.directiveExtensions.all fun e => document.directives.any (·.name = e.1))
    && (document.extendedTypes.all fun t =>
      allDistinct (t.parts.fields.map (·.name)) && allDistinct (t.parts.values.map (·.name))
        && allDistinct (t.parts.inputs.map (·.name)))
    && (document.allTypes.all fun t => t.parts.fields.all fun f =>
      allDistinct (f.arguments.map (·.name)))
    && (document.directives.all fun d => allDistinct (d.arguments.map (·.name)))
    && document.namedTypes.all document.isKnownType
    && (document.uses.types.all fun name => document.types.any (·.name = name))
    && (document.sites.all fun s => s.directives.all (document.checkDirective s.location))
    && (document.allArguments.all fun arguments => allDistinct (arguments.map Prod.fst))
    && document.places.all document.checkRepetition
    && document.allLiterals.all distinctFields

/-! ### Directives that the schema keeps -/

inductive TextArgument where
  | unused
  | given (text : String)
  | unreadable
  deriving DecidableEq

/-- The text argument of a directive. One that is left out is the default, if there is one. -/
def textArgument (directive argument : String) (default : Option String)
    (uses : List Directive) : TextArgument :=
  match uses.find? (·.name = directive) with
  | none => .unused
  | some use =>
    match use.arguments.lookup argument, default with
    | some (.string text _), _ => .given text
    | none, some text => .given text
    | _, _ => .unreadable

def deprecation (uses : List Directive) : TextArgument :=
  textArgument "deprecated" "reason" (some "No longer supported") uses

def nonstandardTypes (document : Document) : List TypeDefinition :=
  document.extendedTypes.filter fun t => (Standard.type? t.name).isNone

def hasTexts (document : Document) : Bool :=
  (document.nonstandardTypes.all fun t =>
      (partSites "" { t.parts with values := [] }).all (deprecation ·.directives ≠ .unreadable)
        && (t.kind ≠ .scalar
          || textArgument "specifiedBy" "url" none t.parts.directives ≠ .unreadable))
    && document.directives.all fun d =>
      deprecation d.directives ≠ .unreadable
        && d.arguments.all fun a => deprecation a.directives ≠ .unreadable

def hasValueTexts (document : Document) : Bool :=
  document.nonstandardTypes.all fun t =>
    t.parts.values.all fun v => deprecation v.directives ≠ .unreadable

end Document

/-! ### The types -/

def deprecation? (directives : List Directive) : Option String :=
  match Document.deprecation directives with
  | .given reason => some reason
  | _ => none

structure Types where
  types : List TypeDefinition

namespace Types

def find? (env : Types) (name : String) : Option TypeDefinition :=
  env.types.find? (·.name = name)

def kind? (env : Types) (name : String) : Option TypeKind :=
  (env.find? name).map (·.kind)

def isOutput (env : Types) (ref : Ref) : Bool :=
  (env.kind? ref.innermost).any TypeKind.isOutput

def isInput (env : Types) (ref : Ref) : Bool :=
  (env.kind? ref.innermost).any TypeKind.isInput

def isOneOf (type : TypeDefinition) : Bool :=
  type.parts.directives.any (·.name = "oneOf")

def isInt32 (text : String) : Bool :=
  text.toInt?.any fun n => -2147483648 ≤ n && n ≤ 2147483647

def leafFits (type : TypeDefinition) (literal : Literal) : Bool :=
  match type.kind with
  | .enum =>
    match literal with
    | .enum name => type.parts.values.any (·.name = name)
    | _ => false
  | .scalar =>
    match type.name, literal with
    | "Int", .int text => isInt32 text
    | "Int", _ => false
    | "Float", .int _ | "Float", .float _ => true
    | "Float", _ => false
    | "String", .string _ _ => true
    | "String", _ => false
    | "Boolean", .boolean _ => true
    | "Boolean", _ => false
    | "ID", .string _ _ | "ID", .int _ => true
    | "ID", _ => false
    | _, _ => true
  | _ => false

/-- Are all required fields given, and, for an input of one field, exactly that one? -/
def fieldsComplete (type : TypeDefinition) (fields : List (String × Literal)) : Bool :=
  (type.parts.inputs.all fun i => !Document.isRequired i || fields.any (·.1 = i.name))
    && (!isOneOf type || (fields.length = 1 && fields.all fun f =>
      match f.2 with
      | .null => false
      | _ => true))

mutual

/-- Does the literal fit the type? A single item stands for a list of it. -/
def fits (env : Types) (ref : Ref) (literal : Literal) : Bool :=
  match ref, literal with
  | .nonNull _, .null => false
  | .nonNull inner, literal => env.fits inner literal
  | _, .null => true
  | .list item, .list items => env.allFit item items
  | .list item, literal => env.fits item literal
  | .named name, .object fields =>
    match env.find? name with
    | none => false
    | some type =>
      if type.kind = .inputObject then fieldsComplete type fields && env.fieldsFit type fields
      else leafFits type (.object fields)
  | .named name, literal => (env.find? name).any (leafFits · literal)
termination_by (sizeOf literal, sizeOf ref)

def allFit (env : Types) (ref : Ref) : List Literal → Bool
  | [] => true
  | item :: items => env.fits ref item && env.allFit ref items
termination_by items => (sizeOf items, sizeOf ref)

def fieldsFit (env : Types) (type : TypeDefinition) : List (String × Literal) → Bool
  | [] => true
  | (key, value) :: fields =>
    (match type.parts.inputs.find? (·.name = key) with
      | some input => env.fits input.type value
      | none => false)
      && env.fieldsFit type fields
termination_by fields => (sizeOf fields, 0)

end

def checkInput (env : Types) (input : InputDefinition) : Bool :=
  !isKept input.name && env.isInput input.type
    && !(Document.isRequired input && (deprecation? input.directives).isSome)
    && input.default.all (env.fits input.type)

def checkField (env : Types) (field : FieldDefinition) : Bool :=
  !isKept field.name && env.isOutput field.type && field.arguments.all env.checkInput

def standsFor (env : Types) (abstract_ other : String) : Bool :=
  match env.find? abstract_, env.find? other with
  | some a, some b =>
    match a.kind with
    | .union => other ∈ a.parts.members && b.kind = .object
    | .interface => abstract_ ∈ b.parts.interfaces && (b.kind = .object || b.kind = .interface)
    | _ => false
  | _, _ => false

def isSubtype (env : Types) : Ref → Ref → Bool
  | .nonNull a, .nonNull b => env.isSubtype a b
  | .nonNull a, b => env.isSubtype a b
  | .list a, .list b => env.isSubtype a b
  | .named a, .named b => a = b || env.standsFor b a
  | _, _ => false

/-- Does the type have the fields of the interface, with fitting types and arguments? A field is not
deprecated if that of the interface is not. -/
def conforms (env : Types) (type interface : TypeDefinition) : Bool :=
  interface.parts.fields.all fun wanted =>
    match type.parts.fields.find? (·.name = wanted.name) with
    | none => false
    | some field =>
      env.isSubtype field.type wanted.type
        && ((deprecation? wanted.directives).isSome || (deprecation? field.directives).isNone)
        && (wanted.arguments.all fun a =>
          field.arguments.any fun b => b.name = a.name && b.type = a.type)
        && field.arguments.all fun b =>
          wanted.arguments.any (·.name = b.name) || !Document.isRequired b

def checkInterfaces (env : Types) (type : TypeDefinition) : Bool :=
  allDistinct type.parts.interfaces && type.name ∉ type.parts.interfaces
    && type.parts.interfaces.all fun name =>
      match env.find? name with
      | none => false
      | some interface =>
        interface.kind = .interface
          && (interface.parts.interfaces.all fun above => above ∈ type.parts.interfaces)
          && env.conforms type interface

/-- Can a value of the type be written, if values of the given input objects can? A list can be
empty, and other values can be null unless the type is an input of one field. -/
def canWrite (env : Types) (known : List String) (type : TypeDefinition) : Bool :=
  let single : Ref → Bool
    | .named name | .nonNull (.named name) => env.kind? name ≠ some .inputObject || name ∈ known
    | _ => true
  if isOneOf type then type.parts.inputs.any fun i => single i.type
  else type.parts.inputs.all fun i => i.type.isNullable || single i.type

def writable (env : Types) : Nat → List String
  | 0 => []
  | n + 1 =>
    let known := env.writable n
    (env.types.filter fun t => t.kind = .inputObject && env.canWrite known t).map (·.name)

def allWritable (env : Types) : Bool :=
  let known := env.writable (env.types.length + 1)
  env.types.all fun t => t.kind ≠ .inputObject || t.name ∈ known

abbrev Slot := String × String

def heldType? (env : Types) (input : InputDefinition) : Option TypeDefinition :=
  (env.find? input.type.innermost).filter (·.kind = .inputObject)

mutual

/-- The fields whose defaults a literal for an input object brings in: those that it leaves out,
and the same for the fields that it gives. -/
def leftOut (env : Types) (type : TypeDefinition) : Literal → List Slot
  | .list items => env.leftOutAll type items
  | .object fields =>
    (type.parts.inputs.filterMap fun input =>
        if (fields.lookup input.name).isNone && input.default.isSome
            && (env.heldType? input).isSome then some (type.name, input.name)
        else none)
      ++ env.leftOutIn type fields
  | _ => []

def leftOutAll (env : Types) (type : TypeDefinition) : List Literal → List Slot
  | [] => []
  | item :: items => env.leftOut type item ++ env.leftOutAll type items

def leftOutIn (env : Types) (type : TypeDefinition) : List (String × Literal) → List Slot
  | [] => []
  | (key, value) :: fields =>
    (match (type.parts.inputs.find? (·.name = key)).bind env.heldType? with
      | some held => env.leftOut held value
      | none => [])
      ++ env.leftOutIn type fields

end

def broughtIn (env : Types) (slot : Slot) : List Slot :=
  match (env.find? slot.1).bind fun t => t.parts.inputs.find? (·.name = slot.2) with
  | none => []
  | some input =>
    match input.default, env.heldType? input with
    | some default, some held => env.leftOut held default
    | _, _ => []

def broughtInAfter (env : Types) (slots : List Slot) : Nat → List Slot
  | 0 => slots
  | n + 1 =>
    let more := (slots.flatMap env.broughtIn).filter (· ∉ slots)
    if more.isEmpty then slots else env.broughtInAfter (slots ++ more.eraseDups) n

def slots (env : Types) : List Slot :=
  env.types.flatMap fun t => t.parts.inputs.map fun i => (t.name, i.name)

def hasDefaultCycle (env : Types) : Bool :=
  env.slots.any fun slot => slot ∈ env.broughtInAfter (env.broughtIn slot) env.slots.length

def checkType (env : Types) (type : TypeDefinition) : Bool :=
  !isKept type.name &&
  match type.kind with
  | .scalar => true
  | .object | .interface =>
    !type.parts.fields.isEmpty && type.parts.fields.all env.checkField && env.checkInterfaces type
  | .union =>
    !type.parts.members.isEmpty && allDistinct type.parts.members
      && type.parts.members.all fun m => env.kind? m = some .object
  | .enum => !type.parts.values.isEmpty && type.parts.values.all fun v => !isKept v.name
  | .inputObject =>
    !type.parts.inputs.isEmpty && type.parts.inputs.all env.checkInput
      && (!isOneOf type || type.parts.inputs.all fun i => i.type.isNullable && i.default.isNone)

end Types

namespace Document

/-- The defined types; one that has a standard name is the standard one. -/
def ownTypes (document : Document) : List TypeDefinition :=
  document.extendedTypes.map fun t => (Standard.type? t.name).getD t

def env (document : Document) : Types :=
  ⟨document.ownTypes ++ Standard.types⟩

/-- The root of an operation: what the document says or, without a `schema` definition, the type
with the operation's name. -/
def root? (document : Document) (kind : OperationKind) : Option String :=
  let named := (document.allSchemas.flatMap (·.roots)).find? (·.1 = kind) |>.map Prod.snd
  let conventional := match kind with
    | .query => "Query"
    | .mutation => "Mutation"
    | .subscription => "Subscription"
  if document.schemas.isEmpty && document.types.any (·.name = conventional) then some conventional
  else named

def checkRoots (document : Document) : Bool :=
  let roots := [OperationKind.query, .mutation, .subscription].filterMap document.root?
  (document.root? .query).isSome && allDistinct roots
    && roots.all fun r => document.env.kind? r = some .object

def isValid (document : Document) : Bool :=
  document.checkRoots
    && (document.ownTypes.all fun t => (Standard.type? t.name).isSome || document.env.checkType t)
    && (document.directives.all fun d => !isKept d.name && d.arguments.all document.env.checkInput)
    && document.env.allWritable && !document.env.hasDefaultCycle

end Document

end GraphqlRequests.Sdl
