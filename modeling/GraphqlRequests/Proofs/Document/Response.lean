import GraphqlRequests.Proofs.Document.Syntax
import GraphqlRequests.Proofs.Schema.Lookup

/-!
# Responses

What a document asks of an object, and which values answer it: each object of a response has the
fields that are asked of its type, there and in fragments, and nothing is null that must not be.
-/

namespace GraphqlRequests.Document

/-- A field is asked of an object of the type: by itself, around selections, or in a fragment on
this type. -/
inductive Body.Asks (body : Body) (type : String) : List Item → String → List Item → Prop where
  | leaf {items name} (member : .leaf name ∈ items) : Asks body type items name []
  | nested {items name inner} (member : .nested name inner ∈ items) :
      Asks body type items name inner
  | spread {items key d name inner} (member : .spread key ∈ items)
      (defined : body.definition? key = some d) (applies : d.type = type)
      (asks : Asks body type d.items name inner) : Asks body type items name inner

/-- A value answers selections on something of a type. Below a field all selections count that are
made on it in different places. -/
inductive Answers (schema : Schema String) (body : Body) :
    TypeRef (NamedRef String) → List Item → Json → Prop where
  | null {type items} (nullable : type.isNullable = true) : Answers schema body type items .null
  | nonNull {type items value} (given : value ≠ .null)
      (answers : Answers schema body type items value) :
      Answers schema body (.nonNull type) items value
  | list {type items values} (each : ∀ value ∈ values, Answers schema body type items value) :
      Answers schema body (.list type) items (.array values)
  | leaf {ref value} (plain : schema.object? ref.name = none) :
      Answers schema body (.named ref) [] value
  | object {ref object items members} (below : String → List Item)
      (found : schema.object? ref.name = some object)
      (asked : ∀ name, (Json.member? name members).isSome = true ↔
        ∃ inner, body.Asks object.name items name inner)
      (together : ∀ name item, item ∈ below name ↔
        ∃ inner, body.Asks object.name items name inner ∧ item ∈ inner)
      (each : ∀ field ∈ object.fields, ∀ value, Json.member? field.name members = some value →
        Answers schema body field.type (below field.name) value) :
      Answers schema body (.named ref) items (.object members)

/-- An object inside of a value, with its object type and its members. -/
inductive Inside (schema : Schema String) :
    TypeRef (NamedRef String) → Json → ObjectType String → List (String × Json) → Prop where
  | here {ref object members} (found : schema.object? ref.name = some object) :
      Inside schema (.named ref) (.object members) object members
  | member {ref outer field members value object inner}
      (found : schema.object? ref.name = some outer) (own : field ∈ outer.fields)
      (given : Json.member? field.name members = some value)
      (inside : Inside schema field.type value object inner) :
      Inside schema (.named ref) (.object members) object inner
  | item {type values value object members} (member : value ∈ values)
      (inside : Inside schema type value object members) :
      Inside schema (.list type) (.array values) object members
  | nonNull {type value object members} (inside : Inside schema type value object members) :
      Inside schema (.nonNull type) value object members

variable {schema : Schema String} {body : Body} {type : TypeRef (NamedRef String)}
variable {items : List Item} {value : Json}

theorem Answers.ne_null (answers : Answers schema body type items value)
    (strict : type.isNullable = false) : value ≠ .null := by
  cases answers with
  | null nullable =>
    rw [strict] at nullable
    cases nullable
  | nonNull given => exact given
  | list | leaf | object => cases strict

theorem Answers.of_object {ref : NamedRef String} {object : ObjectType String}
    {members : List (String × Json)}
    (answers : Answers schema body (.named ref) items (.object members))
    (found : schema.object? ref.name = some object) :
    (∀ name, (Json.member? name members).isSome = true ↔
      ∃ inner, body.Asks object.name items name inner) ∧
    ∃ below : String → List Item,
      (∀ name item, item ∈ below name ↔
        ∃ inner, body.Asks object.name items name inner ∧ item ∈ inner) ∧
      ∀ field ∈ object.fields, ∀ value, Json.member? field.name members = some value →
        Answers schema body field.type (below field.name) value := by
  cases answers with
  | leaf plain => cases plain.symm.trans found
  | object _ also asked together each =>
    cases also.symm.trans found
    exact ⟨asked, _, together, each⟩

theorem Inside.found {object : ObjectType String} {members : List (String × Json)}
    (inside : Inside schema type value object members) :
    schema.object? object.name = some object := by
  induction inside with
  | here found => exact Schema.object?_name found
  | member _ _ _ _ ih | item _ _ ih | nonNull _ ih => exact ih

end GraphqlRequests.Document
