import GraphqlRequests.Proofs.Introspection.Encoding
import Mathlib.Data.List.TakeWhile

/-!
# Reading introspection values

`decode` reads the schema back from each value that encodes it.
-/

namespace GraphqlRequests.Introspection

variable {key : String} {value part : Json}

/-- Types have distinct texts for names, roots are object types, and what is returned or taken is of
a kind that can be. -/
structure Loadable (schema : Schema Json) : Prop where
  named : ∀ type ∈ schema.types, Name.isText type.name = true
  distinct : (schema.types.map (·.name)).Nodup
  roots : ∀ kind name, schema.root? kind = some name → (schema.object? name).isSome
  output : ∀ type ∈ schema.types, ∀ field ∈ type.fields, field.type.innermost.kind.isOutput = true
  input : ∀ type ∈ schema.types, ∀ input ∈ type.inputs, input.type.innermost.kind.isInput = true

/-! ### Keys and lists -/

theorem need_ok (held : value.get? key = some part) : need key value = .ok part := by
  cases value with
  | object members =>
    rw [Json.get?] at held
    rw [need, held]
  | _ => cases held

theorem optionalParts_ok {items : List Json} (lists : Lists key items value) :
    optionalParts key value = .ok items := by
  rcases lists with held | ⟨rfl, absent⟩
  · rw [optionalParts, Json.getD, held, Option.getD_some]
    cases items <;> rfl
  · rw [optionalParts, absent]
    rfl

theorem mapM_forall₂ {α : Type} {encodes : α → Json → Prop} {step : Json → Decode α}
    {parts : List α} {items : List Json} (encoded : List.Forall₂ encodes parts items)
    (each : ∀ part ∈ parts, ∀ item, encodes part item → step item = .ok part) :
    items.mapM step = .ok parts := by
  induction encoded with
  | nil => rfl
  | cons first _ ih =>
    obtain ⟨here, later⟩ := List.forall_mem_cons.mp each
    rw [List.mapM_cons, here _ first, ih later]
    rfl

theorem exists_parts {α : Type} {encodes : α → Json → Prop} {step : Json → Decode α}
    {parts : List α} (encoded : EncodesList encodes key parts value)
    (each : ∀ part ∈ parts, ∀ item, encodes part item → step item = .ok part) :
    ∃ items, optionalParts key value = .ok items ∧ items.mapM step = .ok parts := by
  obtain ⟨items, lists, encoded⟩ := encoded
  exact ⟨items, optionalParts_ok lists, mapM_forall₂ encoded each⟩

theorem exists_names {names : List Json} (encoded : EncodesList EncodesName key names value) :
    ∃ items, optionalParts key value = .ok items ∧ items.mapM (need "name") = .ok names :=
  exists_parts encoded fun _ _ _ called => need_ok called

/-! ### References -/

theorem innerRef_ok {members : List (String × Json)}
    (held : Json.member? "ofType" members = some value) : innerRef members = typeRef value := by
  induction members with
  | nil => cases held
  | cons m rest ih =>
    obtain ⟨name, inner⟩ := m
    rw [Json.member?] at held
    rw [innerRef]
    split
    · next same =>
      rw [if_pos same] at held
      rw [Option.some.inj held]
    · next other =>
      rw [if_neg other] at held
      exact ih held

theorem kind_ok {kind : TypeKind} (kinded : value.get? "kind" = some (.string kind.toName)) :
    Introspection.kind value = .ok kind := by
  rw [Introspection.kind, need_ok kinded]
  simp [Json.string?, TypeKind.ofName?_toName, bind, Except.bind]

theorem exists_members (held : value.get? key = some part) :
    ∃ members, value = .object members ∧ Json.member? key members = some part := by
  cases value with
  | object members => exact ⟨members, rfl, held⟩
  | _ => cases held

theorem typeRef_ok {ref : TypeRef (NamedRef Json)} (encoded : EncodesRef ref value) :
    typeRef value = .ok ref := by
  induction encoded with
  | @named kind name value kinded called =>
    obtain ⟨members, rfl, -⟩ := exists_members kinded
    have wraps : Json.string kind.toName ≠ .string "NON_NULL" ∧
        Json.string kind.toName ≠ .string "LIST" := by
      cases kind <;> simp [TypeKind.toName]
    rw [typeRef, need_ok kinded]
    simp [wraps, kind_ok kinded, need_ok called, bind, Except.bind, pure, Except.pure]
  | list kinded wraps _ ih =>
    obtain ⟨members, rfl, held⟩ := exists_members wraps
    rw [typeRef, need_ok kinded]
    simp [innerRef_ok held, ih, bind, Except.bind, pure, Except.pure]
  | nonNull kinded wraps _ ih =>
    obtain ⟨members, rfl, held⟩ := exists_members wraps
    rw [typeRef, need_ok kinded]
    simp [innerRef_ok held, ih, bind, Except.bind, pure, Except.pure]

/-! ### Fields and values -/

theorem deprecated_ok {flag : Json} (flags : Flags "isDeprecated" flag value) :
    deprecated value = flag := by
  rcases flags with held | ⟨rfl, absent⟩
  · rw [deprecated, held, Option.getD_some]
  · rw [deprecated, absent, Option.getD_none]

theorem inputValue_ok {input : InputValue Json} (encoded : EncodesInput input value)
    (fine : input.type.innermost.kind.isInput = true) : inputValue value = .ok input := by
  obtain ⟨ref, held, reads⟩ := encoded.type
  rw [inputValue, need_ok held]
  simp only [bind, Except.bind, typeRef_ok reads, fine, need_ok encoded.called,
    encoded.description, encoded.default]
  rfl

theorem field_ok {field : Field Json} {owner : Json} (encoded : EncodesField field value)
    (fine : field.type.innermost.kind.isOutput = true)
    (inputs : ∀ input ∈ field.arguments, input.type.innermost.kind.isInput = true) :
    Introspection.field owner value = .ok field := by
  obtain ⟨ref, held, reads⟩ := encoded.type
  obtain ⟨items, lists, arguments⟩ := exists_parts encoded.arguments
    fun input member _ encodes => inputValue_ok encodes (inputs input member)
  rw [Introspection.field, need_ok held]
  simp only [bind, Except.bind, typeRef_ok reads, fine, need_ok encoded.called,
    lists, arguments, encoded.description, encoded.reason,
    deprecated_ok encoded.deprecated]
  rfl

theorem enumValue_ok {member : EnumValue Json} (encoded : EncodesEnumValue member value) :
    enumValue value = .ok member := by
  rw [enumValue, need_ok encoded.called, encoded.description, encoded.reason,
    deprecated_ok encoded.deprecated]
  rfl

/-! ### Types -/

theorem body_ok {type : NamedType Json} {name : Json} (encoded : EncodesBody type.body value)
    (output : ∀ field ∈ type.fields, field.type.innermost.kind.isOutput = true)
    (input : ∀ input ∈ type.inputs, input.type.innermost.kind.isInput = true) :
    body name value type.kind = .ok type.body := by
  have reads : ∀ field ∈ type.fields, ∀ item, EncodesField field item →
      Introspection.field name item = .ok field := fun field member _ encodes =>
    field_ok encodes (output field member) fun value given =>
      input value (NamedType.mem_inputs_of_argument member given)
  -- The kind says which members are read, and reading gives back what each of them encodes.
  obtain ⟨called, description, whole⟩ := type
  cases whole with
  | scalar => rfl
  | object fields interfaces =>
    obtain ⟨_, fields, readFields⟩ := exists_parts encoded.1 reads
    obtain ⟨_, interfaces, readInterfaces⟩ := exists_names encoded.2
    simp only [NamedType.kind, TypeBody.kind, body, bind, Except.bind, fields, readFields,
      interfaces, readInterfaces]
    rfl
  | interface fields interfaces possibleTypes =>
    obtain ⟨_, fields, readFields⟩ := exists_parts encoded.1 reads
    obtain ⟨_, interfaces, readInterfaces⟩ := exists_names encoded.2.1
    obtain ⟨_, possible, readPossible⟩ := exists_names encoded.2.2
    simp only [NamedType.kind, TypeBody.kind, body, bind, Except.bind, fields, readFields,
      interfaces, readInterfaces, possible, readPossible]
    rfl
  | union possibleTypes =>
    obtain ⟨_, possible, readPossible⟩ := exists_names encoded
    simp only [NamedType.kind, TypeBody.kind, body, bind, Except.bind, possible, readPossible]
    rfl
  | enum values =>
    obtain ⟨_, members, readMembers⟩ := exists_parts encoded fun _ _ _ => enumValue_ok
    simp only [NamedType.kind, TypeBody.kind, body, bind, Except.bind, members, readMembers]
    rfl
  | inputObject fields =>
    obtain ⟨_, inputs, readInputs⟩ := exists_parts encoded
      fun value member _ encodes => inputValue_ok encodes (input value member)
    simp only [NamedType.kind, TypeBody.kind, body, bind, Except.bind, inputs, readInputs]
    rfl

theorem namedType_ok {type : NamedType Json} (encoded : EncodesType type value)
    (output : ∀ field ∈ type.fields, field.type.innermost.kind.isOutput = true)
    (input : ∀ input ∈ type.inputs, input.type.innermost.kind.isInput = true) :
    namedType value = .ok type := by
  simp only [namedType, bind, Except.bind, kind_ok encoded.kinded, need_ok encoded.called,
    body_ok encoded.body output input, encoded.description]
  rfl

/-! ### Schemas -/

variable {schema : Schema Json}

theorem rootName_ok {root : Option Json} (encoded : EncodesRoot key root value)
    (named : root ≠ some .null) : rootName key value = .ok root := by
  cases root with
  | none => rw [rootName, show value.getD key = .null from encoded]; rfl
  | some name =>
    obtain ⟨root, held, called⟩ := encoded
    obtain ⟨members, rfl, -⟩ := exists_members called
    have present : (Json.object members).isPresent = true := by
      cases members with
      | nil => cases called
      | cons => rfl
    have found : value.getD key = .object members := by rw [Json.getD, held, Option.getD_some]
    have given : name ≠ .null := fun same => named (congrArg some same)
    simp [rootName, found, present, need_ok called, given, bind, Except.bind, pure, Except.pure]

namespace Loadable

variable (loadable : Loadable schema)
include loadable

theorem isKey {type : NamedType Json} (member : type ∈ schema.types) :
    type.name.isKey = true ∧ Name.key type.name = type.name := by
  have named := loadable.named type member
  cases called : type.name with
  | string | broken => exact ⟨rfl, rfl⟩
  | _ => rw [called] at named; cases named

theorem built : schema.Built where
  distinct := by
    rw [List.map_congr_left fun type member => (loadable.isKey member).2]
    exact loadable.distinct
  roots := loadable.roots

theorem root?_ne_null (kind : OperationKind) : schema.root? kind ≠ some .null := by
  intro root
  obtain ⟨object, found⟩ := Option.isSome_iff_exists.mp (loadable.roots kind _ root)
  obtain ⟨type, here, -⟩ := Schema.object?_eq_some.mp found
  have key := Schema.key_of_type? here
  have named := loadable.named type (Schema.mem_of_type? here)
  rw [(loadable.isKey (Schema.mem_of_type? here)).2] at key
  rw [key] at named
  cases named

theorem contents_eq (encoded : Encodes schema value) : contents value = .ok (schema.types,
    some schema.roots.query, schema.roots.mutation, schema.roots.subscription) := by
  obtain ⟨items, held, types⟩ := encoded.types
  have read := mapM_forall₂ types fun type member _ encodes =>
    namedType_ok encodes (loadable.output type member) (loadable.input type member)
  have query := rootName_ok encoded.query (loadable.root?_ne_null .query)
  have mutation := rootName_ok encoded.mutation (loadable.root?_ne_null .mutation)
  have subscription := rootName_ok encoded.subscription (loadable.root?_ne_null .subscription)
  simp only [contents, bind, Except.bind, need_ok held, parts, read, query, mutation, subscription]
  rfl

theorem assemble_eq : assemble schema.types (some schema.roots.query) schema.roots.mutation
    schema.roots.subscription = .ok schema := by
  have usable : schema.types.takeWhile (·.name.isKey) = schema.types :=
    List.takeWhile_eq_self_iff.mpr fun type member => (loadable.isKey member).1
  have named : (schema.types.all fun t => !isCounted t.kind || Name.isText t.name) = true :=
    List.all_eq_true.mpr fun type member => by simp [loadable.named type member]
  simp only [assemble, usable, Schema.built_iff.mp loadable.built, named]
  simp

theorem decode_eq {whole : List (String × Json)} (encoded : Encodes schema value)
    (inside : unwrap (.object whole) = value) : decode (.object whole) = .ok schema := by
  rw [decode, inside, loadable.contents_eq encoded]
  exact loadable.assemble_eq

end Loadable

theorem Encodes.unwrap_eq (encoded : Encodes schema value) : unwrap value = value := by
  simp [unwrap, encoded.bare]

/-- A schema has an introspection value, and from each that it has it is read back: from that by
itself, from the data of a response, and from the whole response. -/
theorem decode_encodes (loadable : Loadable schema) : Encodes schema (encode schema) ∧
    ∀ value, Encodes schema value → decode value = .ok schema ∧
      decode (.object [("__schema", value)]) = .ok schema ∧
      decode (.object [("data", .object [("__schema", value)])]) = .ok schema := by
  refine ⟨encodes_encode schema, fun value encoded => ⟨?_, ?_, ?_⟩⟩
  · obtain ⟨items, held, -⟩ := encoded.types
    obtain ⟨members, rfl, -⟩ := exists_members held
    exact loadable.decode_eq encoded encoded.unwrap_eq
  · exact loadable.decode_eq encoded rfl
  · exact loadable.decode_eq encoded rfl

/-! ### A value with few keys -/

namespace Nodes

def ids : InputValue Json where
  name := .string "ids"
  type := .list (.nonNull (.named ⟨.scalar, .string "ID"⟩))
  default := .string "[]"

def nodes : Field Json where
  name := .string "nodes"
  type := .nonNull (.list (.named ⟨.interface, .string "Node"⟩))
  arguments := [ids]

def listing : Schema Json where
  types := [
    { name := .string "Query", description := .string "All there is.", body := .object [nodes] [] },
    { name := .string "Node", body := .interface [] [] [.string "Query"] },
    { name := .string "Order",
      body := .enum [{ name := .string "ASC", deprecated := .bool true }] },
    { name := .string "ID", body := .scalar }]
  roots := ⟨.string "Query", none, none⟩

def named (kind name : String) (more : List (String × Json)) : Json :=
  .object (("kind", .string kind) :: ("name", .string name) :: more)

def wrapped (kind : String) (inner : Json) : Json :=
  .object [("kind", .string kind), ("ofType", inner)]

def idsValue : Json :=
  .object [("name", .string "ids"), ("defaultValue", .string "[]"),
    ("type", wrapped "LIST" (wrapped "NON_NULL" (named "SCALAR" "ID" [])))]

def nodesValue : Json :=
  .object [("name", .string "nodes"), ("directives", .array []),
    ("type", wrapped "NON_NULL" (wrapped "LIST" (named "INTERFACE" "Node" []))),
    ("args", .array [idsValue])]

/-- What can be left out is left out or null, and some keys are added. -/
def fewKeys : Json :=
  .object [("queryType", .object [("name", .string "Query")]), ("mutationType", .null),
    ("types", .array [
      named "OBJECT" "Query" [("description", .string "All there is."), ("interfaces", .null),
        ("fields", .array [nodesValue])],
      named "INTERFACE" "Node" [("fields", .array []),
        ("possibleTypes", .array [named "OBJECT" "Query" []])],
      named "ENUM" "Order" [("enumValues", .array [
        .object [("name", .string "ASC"), ("isDeprecated", .bool true)]])],
      named "SCALAR" "ID" [("fields", .null), ("specifiedByURL", .null)]])]

theorem listing_loadable : Loadable listing where
  named := by decide
  distinct := by decide
  roots kind name root := by
    cases kind with
    | query =>
      obtain rfl : Json.string "Query" = name := Option.some.inj root
      decide
    | mutation | subscription => cases root
  output := by decide
  input := by decide

theorem encodes_nodes : EncodesField nodes nodesValue where
  called := rfl
  type := ⟨_, rfl, .nonNull rfl rfl (.list rfl rfl (.named rfl rfl))⟩
  arguments := by
    have type : EncodesRef ids.type
        (wrapped "LIST" (wrapped "NON_NULL" (named "SCALAR" "ID" []))) :=
      .list rfl rfl (.nonNull rfl rfl (.named rfl rfl))
    exact ⟨_, .inl rfl, .cons ⟨rfl, ⟨_, rfl, type⟩, rfl, rfl⟩ .nil⟩
  description := rfl
  deprecated := .inr ⟨rfl, rfl⟩
  reason := rfl

theorem encodes_fewKeys : Encodes listing fewKeys where
  types := by
    refine ⟨_, rfl, .cons ⟨rfl, rfl, rfl, ?_⟩ (.cons ⟨rfl, rfl, rfl, ?_⟩
      (.cons ⟨rfl, rfl, rfl, ?_⟩ (.cons ⟨rfl, rfl, rfl, trivial⟩ .nil)))⟩
    · exact ⟨⟨_, .inl rfl, .cons encodes_nodes .nil⟩, ⟨_, .inr ⟨rfl, rfl⟩, .nil⟩⟩
    · exact ⟨⟨_, .inl rfl, .nil⟩, ⟨_, .inr ⟨rfl, rfl⟩, .nil⟩, ⟨_, .inl rfl, .cons rfl .nil⟩⟩
    · exact ⟨_, .inl rfl, .cons ⟨rfl, rfl, .inl rfl, rfl⟩ .nil⟩
  query := ⟨_, rfl, rfl⟩
  mutation := rfl
  subscription := rfl
  bare := ⟨rfl, rfl⟩

end Nodes

open Nodes in
theorem decode_encodes_of_fewKeys : Loadable listing ∧ Encodes listing fewKeys ∧
    fewKeys ≠ encode listing ∧
    decode (.object [("data", .object [("__schema", fewKeys)])]) = .ok listing := by
  obtain ⟨-, reads⟩ := decode_encodes listing_loadable
  obtain ⟨-, -, response⟩ := reads fewKeys encodes_fewKeys
  exact ⟨listing_loadable, encodes_fewKeys, by decide, response⟩

end GraphqlRequests.Introspection
