import GraphqlRequests.Sdl.Document

/-!
# Standard types and directives

What every schema has without defining it: the built-in scalars, the types of the introspection
system, and the directives that say something about a schema or a selection.
-/

namespace GraphqlRequests.Sdl.Standard

def scalar (name description : String) : TypeDefinition :=
  { description := some description, kind := .scalar, name }

def field (name : String) (type : Ref) (description : Option String := none) : FieldDefinition :=
  { description, name, type }

/-- A field whose list leaves deprecated parts out, unless an argument asks for them. -/
def filtered (name : String) (type : Ref) (description : Option String := none) :
    FieldDefinition :=
  { description, name, type
    arguments := [{ name := "includeDeprecated", type := .nonNull (.named "Boolean")
                    default := some (.boolean false) }] }

def object (name description : String) (fields : List FieldDefinition) : TypeDefinition :=
  { description := some description, kind := .object, name, parts := { fields } }

def enum (name description : String) (values : List (String × String)) : TypeDefinition :=
  { description := some description, kind := .enum, name
    parts := { values := values.map fun v => { name := v.1, description := some v.2 } } }

def scalars : List TypeDefinition := [
  scalar "Boolean"
    ("The \x60Boolean\x60 scalar type represents \x60true\x60 or \x60false\x60."),
  scalar "String"
    ("The \x60String\x60 scalar type represents textual data, represented as UTF-8 character"
      ++ " sequences. The String type is most often used by GraphQL to represent free-form"
      ++ " human-readable text."),
  scalar "Int"
    ("The \x60Int\x60 scalar type represents non-fractional signed whole numeric values. Int"
      ++ " can represent values between -(2^31) and 2^31 - 1."),
  scalar "Float"
    ("The \x60Float\x60 scalar type represents signed double-precision fractional values as"
      ++ " specified by [IEEE 754](https://en.wikipedia.org/wiki/IEEE_floating_point)."),
  scalar "ID"
    ("The \x60ID\x60 scalar type represents a unique identifier, often used to refetch an"
      ++ " object or as key for a cache. The ID type appears in a JSON response as a String;"
      ++ " however, it is not intended to be human-readable. When expected as an input type, any"
      ++ " string (such as \x60\"4\"\x60) or integer (such as \x604\x60) input value will be"
      ++ " accepted as an ID.")]

def introspection : List TypeDefinition := [
  object "__Schema"
    ("A GraphQL Schema defines the capabilities of a GraphQL server. It exposes all"
      ++ " available types and directives on the server, as well as the entry points for query,"
      ++ " mutation, and subscription operations.") [
      field "description" (.named "String"),
      field "types" (.nonNull (.list (.nonNull (.named "__Type"))))
        (some "A list of all types supported by this server."),
      field "queryType" (.nonNull (.named "__Type"))
        (some "The type that query operations will be rooted at."),
      field "mutationType" (.named "__Type")
        (some ("If this server supports mutation, the type that mutation operations will be rooted"
          ++ " at.")),
      field "subscriptionType" (.named "__Type")
        (some ("If this server supports subscription, the type that subscription operations will be"
          ++ " rooted at.")),
      filtered "directives" (.nonNull (.list (.nonNull (.named "__Directive"))))
        (some "A list of all directives supported by this server.")],
  object "__Type"
    ("The fundamental unit of any GraphQL Schema is the type. There are many kinds of types"
      ++ " in GraphQL as represented by the \x60__TypeKind\x60 enum.\n\nDepending on the kind of"
      ++ " a type, certain fields describe information about that type. Scalar types provide no"
      ++ " information beyond a name, description and optional \x60specifiedByURL\x60, while"
      ++ " Enum types provide their values. Object and Interface types provide the fields they"
      ++ " describe. Abstract types, Union and Interface, provide the Object types possible at"
      ++ " runtime. List and NonNull types compose other types.") [
      field "kind" (.nonNull (.named "__TypeKind")),
      field "name" (.named "String"),
      field "description" (.named "String"),
      field "specifiedByURL" (.named "String"),
      filtered "fields" (.list (.nonNull (.named "__Field"))),
      field "interfaces" (.list (.nonNull (.named "__Type"))),
      field "possibleTypes" (.list (.nonNull (.named "__Type"))),
      filtered "enumValues" (.list (.nonNull (.named "__EnumValue"))),
      filtered "inputFields" (.list (.nonNull (.named "__InputValue"))),
      field "ofType" (.named "__Type"),
      field "isOneOf" (.named "Boolean")],
  enum "__TypeKind"
    ("An enum describing what kind of type a given \x60__Type\x60 is.") [
      ("SCALAR", "Indicates this type is a scalar."),
      ("OBJECT", "Indicates this type is an object. \x60fields\x60 and \x60interfaces\x60 are valid"
        ++ " fields."),
      ("INTERFACE", "Indicates this type is an interface. \x60fields\x60, \x60interfaces\x60, and"
        ++ " \x60possibleTypes\x60 are valid fields."),
      ("UNION", "Indicates this type is a union. \x60possibleTypes\x60 is a valid field."),
      ("ENUM", "Indicates this type is an enum. \x60enumValues\x60 is a valid field."),
      ("INPUT_OBJECT",
        "Indicates this type is an input object. \x60inputFields\x60 is a valid field."),
      ("LIST", "Indicates this type is a list. \x60ofType\x60 is a valid field."),
      ("NON_NULL", "Indicates this type is a non-null. \x60ofType\x60 is a valid field.")],
  object "__Field"
    ("Object and Interface types are described by a list of Fields, each of which has a"
      ++ " name, potentially a list of arguments, and a return type.") [
      field "name" (.nonNull (.named "String")),
      field "description" (.named "String"),
      filtered "args" (.nonNull (.list (.nonNull (.named "__InputValue")))),
      field "type" (.nonNull (.named "__Type")),
      field "isDeprecated" (.nonNull (.named "Boolean")),
      field "deprecationReason" (.named "String")],
  object "__InputValue"
    ("Arguments provided to Fields or Directives and the input fields of an InputObject are"
      ++ " represented as Input Values which describe their type and optionally a default value.") [
      field "name" (.nonNull (.named "String")),
      field "description" (.named "String"),
      field "type" (.nonNull (.named "__Type")),
      field "defaultValue" (.named "String")
        (some ("A GraphQL-formatted string representing the default value for this input value.")),
      field "isDeprecated" (.nonNull (.named "Boolean")),
      field "deprecationReason" (.named "String")],
  object "__EnumValue"
    ("One possible value for a given Enum. Enum values are unique values, not a placeholder"
      ++ " for a string or numeric value. However an Enum value is returned in a JSON response"
      ++ " as a string.") [
      field "name" (.nonNull (.named "String")),
      field "description" (.named "String"),
      field "isDeprecated" (.nonNull (.named "Boolean")),
      field "deprecationReason" (.named "String")],
  object "__Directive"
    ("A Directive provides a way to describe alternate runtime execution and type validation"
      ++ " behavior in a GraphQL document.\n\nIn some cases, you need to provide options to"
      ++ " alter GraphQL's execution behavior in ways field arguments will not suffice, such as"
      ++ " conditionally including or skipping a field. Directives provide this by describing"
      ++ " additional information to the executor.") [
      field "name" (.nonNull (.named "String")),
      field "description" (.named "String"),
      field "isRepeatable" (.nonNull (.named "Boolean")),
      field "locations" (.nonNull (.list (.nonNull (.named "__DirectiveLocation")))),
      filtered "args" (.nonNull (.list (.nonNull (.named "__InputValue")))),
      field "isDeprecated" (.nonNull (.named "Boolean")),
      field "deprecationReason" (.named "String")],
  enum "__DirectiveLocation"
    ("A Directive can be adjacent to many parts of the GraphQL language, a"
      ++ " __DirectiveLocation describes one such possible adjacencies.") [
      ("QUERY", "Location adjacent to a query operation."),
      ("MUTATION", "Location adjacent to a mutation operation."),
      ("SUBSCRIPTION", "Location adjacent to a subscription operation."),
      ("FIELD", "Location adjacent to a field."),
      ("FRAGMENT_DEFINITION", "Location adjacent to a fragment definition."),
      ("FRAGMENT_SPREAD", "Location adjacent to a fragment spread."),
      ("INLINE_FRAGMENT", "Location adjacent to an inline fragment."),
      ("VARIABLE_DEFINITION", "Location adjacent to an operation variable definition."),
      ("FRAGMENT_VARIABLE_DEFINITION", "Location adjacent to a fragment variable definition."),
      ("SCHEMA", "Location adjacent to a schema definition."),
      ("SCALAR", "Location adjacent to a scalar definition."),
      ("OBJECT", "Location adjacent to an object type definition."),
      ("FIELD_DEFINITION", "Location adjacent to a field definition."),
      ("ARGUMENT_DEFINITION", "Location adjacent to an argument definition."),
      ("INTERFACE", "Location adjacent to an interface definition."),
      ("UNION", "Location adjacent to a union definition."),
      ("ENUM", "Location adjacent to an enum definition."),
      ("ENUM_VALUE", "Location adjacent to an enum value definition."),
      ("INPUT_OBJECT", "Location adjacent to an input object type definition."),
      ("INPUT_FIELD_DEFINITION", "Location adjacent to an input object field definition."),
      ("DIRECTIVE_DEFINITION", "Location adjacent to a directive definition.")]]

def types : List TypeDefinition := scalars ++ introspection

def type? (name : String) : Option TypeDefinition :=
  types.find? (·.name = name)

def directives : List DirectiveDefinition := [
  { name := "include"
    arguments := [{ name := "if", type := .nonNull (.named "Boolean") }]
    locations := ["FIELD", "FRAGMENT_SPREAD", "INLINE_FRAGMENT"] },
  { name := "skip"
    arguments := [{ name := "if", type := .nonNull (.named "Boolean") }]
    locations := ["FIELD", "FRAGMENT_SPREAD", "INLINE_FRAGMENT"] },
  { name := "deprecated"
    arguments := [{ name := "reason", type := .nonNull (.named "String")
                    default := some (.string "No longer supported" false) }]
    locations :=
      ["FIELD_DEFINITION", "ARGUMENT_DEFINITION", "INPUT_FIELD_DEFINITION", "ENUM_VALUE",
        "DIRECTIVE_DEFINITION"] },
  { name := "specifiedBy"
    arguments := [{ name := "url", type := .nonNull (.named "String") }]
    locations := ["SCALAR"] },
  { name := "oneOf"
    locations := ["INPUT_OBJECT"] }]

end GraphqlRequests.Sdl.Standard
