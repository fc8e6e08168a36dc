import GraphqlRequests.Libraries.Sdl.Check
import GraphqlRequests.Libraries.Sdl.Printer
import GraphqlRequests.Load
import GraphqlRequests.Sdl.Reader

/-!
# Introspection of documents

The introspection results that the command line runs with. That of a document has its types with the
standard ones that they reach, each as the introspection query asks for it. References are followed
through nine wrappers, not further.
-/

namespace GraphqlRequests.Sdl

namespace TypeDefinition

def references (type : TypeDefinition) : List String :=
  type.parts.members ++ type.parts.interfaces
    ++ (type.parts.fields.flatMap fun f =>
      f.type.innermost :: f.arguments.map (·.type.innermost))
    ++ type.parts.inputs.map (·.type.innermost)

end TypeDefinition

def unmet (met : List String) : Nat :=
  Standard.types.countP fun t => t.name ∉ met

theorem unmet_append_lt {met : List String} {name : String} {type : TypeDefinition}
    (found : Standard.type? name = some type) (new : name ∉ met) :
    unmet (met ++ [name]) < unmet met := by
  have hname : type.name = name := by
    simpa using List.find?_some found
  have fresh : type ∈ Standard.types.filter fun t => t.name ∉ met :=
    List.mem_filter.mpr ⟨List.mem_of_find?_eq_some found, by simpa [hname] using new⟩
  have fewer : unmet (met ++ [name])
      = (Standard.types.filter fun t => t.name ∉ met).countP fun t => t.name ≠ name := by
    rw [List.countP_filter, unmet]
    simp [not_or, Bool.and_comm]
  rw [fewer, unmet, List.countP_eq_length_filter, List.countP_eq_length_filter]
  exact List.length_filter_lt_length_iff_exists.mpr ⟨type, fresh, by simp [hname]⟩

def meet (met : List String) : List String → List String
  | [] => met
  | name :: rest =>
    if _new : name ∈ met then meet met rest
    else match _found : Standard.type? name with
      | none => meet met rest
      | some type => meet (met ++ [name]) (type.references ++ rest)
termination_by names => (unmet met, names.length)
decreasing_by
  · apply Prod.Lex.right; simp
  · apply Prod.Lex.right; simp
  · apply Prod.Lex.left
    exact unmet_append_lt _found _new

namespace Document

/-- The names of a document's types and of the standard types met on the way: behind each type those
that it names for the first time. -/
def meetAll (own met : List String) : List TypeDefinition → List String
  | [] => met
  | type :: rest =>
    let met := met ++ [type.name]
    let foreign := type.references.filter (· ∉ own)
    meetAll own (meet met foreign) rest

/-- The directives of the schema: its own, then the standard ones that it does not replace. -/
def schemaDirectives (document : Document) : List DirectiveDefinition :=
  document.directives
    ++ Standard.directives.filter fun d => document.directives.all (·.name ≠ d.name)

def typeNames (document : Document) : List String :=
  let own := document.types.map (·.name)
  let met := meetAll own [] document.ownTypes
  let arguments := document.schemaDirectives.flatMap fun d => d.arguments.map (·.type.innermost)
  let roots := [OperationKind.query, .mutation, .subscription].filterMap document.root?
  meet met ((roots ++ arguments).filter (· ∉ own) ++ ["__Schema"])

def schemaTypes (document : Document) : List TypeDefinition :=
  document.typeNames.filterMap document.env.find?

end Document

/-! ### The result -/

def optionalText : Option String → Json
  | some s => .string s
  | none => .null

namespace Types

def wrapperLimit : Nat := 9

/-- A reference, followed through a number of wrappers; past that the rest is left out. -/
def refJson (env : Types) (left : Nat) : Ref → Json
  | .named name =>
    .object [("kind", .string ((env.kind? name).getD .scalar).toName), ("name", .string name),
      ("ofType", .null)]
  | .list item => wrapped env left "LIST" item
  | .nonNull inner => wrapped env left "NON_NULL" inner
where
  wrapped (env : Types) (left : Nat) (kind : String) (inner : Ref) : Json :=
    .object ([("kind", .string kind), ("name", .null)]
      ++ match left with
        | 0 => []
        | left + 1 => [("ofType", refJson env left inner)])

def deprecationMembers (directives : List Directive) : List (String × Json) :=
  let reason := deprecation? directives
  [("isDeprecated", .bool reason.isSome), ("deprecationReason", optionalText reason)]

def inputJson (env : Types) (input : InputDefinition) : Json :=
  .object ([("name", .string input.name), ("description", optionalText input.description),
    ("type", env.refJson wrapperLimit input.type),
    ("defaultValue", optionalText (input.default.map (·.text)))]
    ++ deprecationMembers input.directives)

def fieldJson (env : Types) (field : FieldDefinition) : Json :=
  .object ([("name", .string field.name), ("description", optionalText field.description),
    ("args", .array (field.arguments.map env.inputJson)),
    ("type", env.refJson wrapperLimit field.type)]
    ++ deprecationMembers field.directives)

def valueJson (value : ValueDefinition) : Json :=
  .object ([("name", .string value.name), ("description", optionalText value.description)]
    ++ deprecationMembers value.directives)

def possibleTypes (env : Types) (type : TypeDefinition) : List String :=
  match type.kind with
  | .union => type.parts.members
  | .interface =>
    (env.types.filter fun t => t.kind = .object && type.name ∈ t.parts.interfaces).map (·.name)
  | _ => []

def listFor {α : Type} (applies : Bool) (json : α → Json) (items : List α) : Json :=
  if applies then .array (items.map json) else .null

def typeJson (env : Types) (type : TypeDefinition) : Json :=
  let composite := type.kind = .object || type.kind = .interface
  let named (name : String) : Json := env.refJson wrapperLimit (.named name)
  .object [("kind", .string type.kind.toName), ("name", .string type.name),
    ("description", optionalText type.description),
    ("fields", listFor composite env.fieldJson type.parts.fields),
    ("inputFields", listFor (type.kind = .inputObject) env.inputJson type.parts.inputs),
    ("interfaces", listFor composite named type.parts.interfaces),
    ("enumValues", listFor (type.kind = .enum) valueJson type.parts.values),
    ("possibleTypes", listFor type.kind.isAbstract named (env.possibleTypes type))]

end Types

def rootJson (document : Document) (kind : OperationKind) : Json :=
  match document.root? kind with
  | some name => .object [("name", .string name)]
  | none => .null

def introspection (document : Document) : Json :=
  let types := document.schemaTypes
  .object [("__schema", .object [("queryType", rootJson document .query),
    ("mutationType", rootJson document .mutation),
    ("subscriptionType", rootJson document .subscription),
    ("types", .array (types.map (Types.mk types).typeJson))])]

def introspect (text : String) : Except Schema.TextFailure Json :=
  match readDocument text with
  | none => .error .unreadable
  | some document =>
    if !document.isWellWritten then .error .invalid
    else if !document.hasTexts then .error .unreadable
    else if !document.hasValueTexts then .error .badReason
    else if !document.isValid then .error .invalid
    else .ok (introspection document)

end GraphqlRequests.Sdl
