import GraphqlRequests.Proofs.Plan.Failures
import GraphqlRequests.Proofs.RequestModule.Classes
import GraphqlRequests.Proofs.Scalar.Imports

/-!
# Modules that define what they name

What is named in a module of a linked schema is defined there. Classes and annotations are made
apart from each other; they agree since a planned field reaches whatever the fields of a reached
object type return, selected or not, and since imports and annotations take the same mappings.
-/

namespace GraphqlRequests

namespace RequestModule

def enumLine (name : String) : String :=
  "class " ++ name ++ "(str, _enum.Enum):"

/-- What stands in the annotation for a reference has its place in the module: the module of a
scalar's mapping is imported under the alias, and a class that is referred to is defined. Interfaces
and unions take any value. -/
def Annotates (module : RequestModule) (registry : ScalarRegistry)
    (type : TypeRef (NamedRef String)) (code : CodeRef String) : Prop :=
  match type.innermost.kind with
  | .scalar =>
    code.innermost = (registry.mapping type.innermost.name).typeText ∧
    ∀ before name, code.innermost = before ++ "." ++ name →
      ∃ source, (registry.mapping type.innermost.name).source = some source ∧
        "import " ++ source ++ " as " ++ before ∈ module.textLines
  | .interface | .union => code.innermost = "_typing.Any"
  | .enum => code.innermost = type.innermost.name ∧ code.innermost ∈ module.enums.map (·.name)
  | .inputObject =>
    code.innermost = type.innermost.name ∧ code.innermost ∈ module.inputs.map (·.name)
  | .object => code.innermost = type.innermost.name ∧ code.innermost ∈ module.models.map (·.name)

/-- What is named in a module for the plans of a schema is defined there: in the annotations of
models, of input classes and of requests, and at the end, where classes are resolved. -/
structure Closed (module : RequestModule) (config : Config) (schema : Schema String)
    (plans : List (Plan String)) : Prop where
  models : ∀ model ∈ module.models, ∃ object, schema.object? model.name = some object ∧
    List.Forall₂ (fun field made => module.Annotates config.registry field.type made.type)
      object.fields model.attributes
  inputs : ∀ input ∈ module.inputs, ∃ type, schema.type? input.name = some type ∧
    List.Forall₂ (fun value made => module.Annotates config.registry value.type made.type)
      type.inputFields input.attributes
  requests : List.Forall₂ (fun plan request =>
      module.Annotates config.registry plan.field.type request.result ∧
      List.Forall₂ (fun value made => module.Annotates config.registry value.type made.type)
        plan.field.arguments request.attributes)
    plans module.requests
  enums : ∀ enum ∈ module.enums, enumLine enum.name ∈ module.textLines
  resolved : ∀ name ∈ module.rebuilt, classLine name ∈ module.textLines

/-! ### Lines of a module -/

section Lines

variable {module : RequestModule}

theorem mem_part {α : Type} {title line : String} {lines : α → List String} {items : List α}
    {item : α} (member : item ∈ items) (inside : line ∈ lines item) :
    line ∈ part title lines items := by
  have some : items.isEmpty = false := List.isEmpty_eq_false_iff.mpr (List.ne_nil_of_mem member)
  rw [part, some]
  exact List.mem_append_right _ (List.mem_flatMap.mpr ⟨item, member, inside⟩)

theorem mem_textLines {line : String} : line ∈ module.textLines ↔
    line ∈ opening ∨ line ∈ module.importLines ∨ line ∈ part "Enums" enumLines module.enums ∨
    line ∈ part "Input objects" modelLines module.inputs ∨
    line ∈ part "Response models" modelLines module.models ∨
    line ∈ part "Requests" requestLines module.requests ∨
    line ∈ (if module.rebuilt = [] then []
      else "" :: "" :: module.rebuilt.map (· ++ ".model_rebuild()")) := by
  simp only [textLines, List.mem_append, or_assoc]

theorem enumLine_mem_textLines {enum : EnumClass} (member : enum ∈ module.enums) :
    enumLine enum.name ∈ module.textLines := by
  have line : enumLine enum.name ∈ enumLines enum := by simp [enumLines, enumLine]
  exact mem_textLines.mpr (.inr (.inr (.inl (mem_part member line))))

theorem classLine_mem_modelLines (model : ModelClass) :
    classLine model.name ∈ modelLines model := by
  simp [modelLines]

theorem classLine_mem_requestLines (request : RequestClass) :
    classLine request.name ∈ requestLines request := by
  simp [requestLines]

theorem classLine_mem_textLines {name : String} (listed : name ∈ module.rebuilt) :
    classLine name ∈ module.textLines := by
  rw [mem_textLines]
  rcases List.mem_append.mp listed with classes | requests
  · rcases List.mem_append.mp classes with inputs | models
    · obtain ⟨input, member, rfl⟩ := List.mem_map.mp inputs
      exact .inr (.inr (.inr (.inl (mem_part member (classLine_mem_modelLines input)))))
    · obtain ⟨model, member, rfl⟩ := List.mem_map.mp models
      exact .inr (.inr (.inr (.inr (.inl (mem_part member (classLine_mem_modelLines model))))))
  · obtain ⟨request, member, rfl⟩ := List.mem_map.mp requests
    exact .inr (.inr (.inr (.inr (.inr (.inl
      (mem_part member (classLine_mem_requestLines request)))))))

end Lines

/-! ### Annotations -/

section Annotations

variable {config : Config} {schema : Schema String} {plans : List (Plan String)}

theorem import_mem_textLines {scalar : NamedType String} (listed : scalar ∈ schema.ofKind .scalar)
    {source : String} (imported : (config.registry.mapping scalar.name).source = some source) :
    ScalarMapping.importOf source ∈ (ofPlans config schema plans).textLines := by
  have wanted : source ∈ (ofPlans config schema plans).sources :=
    List.mem_filterMap.mpr ⟨scalar.name, List.mem_map_of_mem listed, imported⟩
  refine mem_textLines.mpr (.inr (.inl (List.mem_append_left _ ?_)))
  exact (Text.mem_sorted _ _).mpr (List.mem_append_right _ (List.mem_map_of_mem wanted))

theorem annotates_typeFor {type : TypeRef (NamedRef String)} (mayOmit : Bool)
    (target : ∃ target ∈ schema.ofKind type.innermost.kind, target.name = type.innermost.name)
    (reached : type.innermost.kind = .object →
      ∃ object ∈ reachedObjects schema plans, object.name = type.innermost.name) :
    (ofPlans config schema plans).Annotates config.registry type
      (typeFor config.registry type mayOmit) := by
  obtain ⟨target, listed, named⟩ := target
  rw [Annotates, innermost_typeFor, atom]
  cases kind : type.innermost.kind with
  | scalar =>
    rw [kind] at listed
    refine ⟨rfl, fun before name dotted => ?_⟩
    obtain ⟨source, imported, same⟩ := config.imported_mapping _ before name dotted
    refine ⟨source, imported, ?_⟩
    rw [← same]
    exact import_mem_textLines listed (named ▸ imported)
  | interface | union => rfl
  | enum =>
    rw [kind] at listed
    exact ⟨rfl, List.mem_map.mpr ⟨ofEnum target, List.mem_map_of_mem listed, named⟩⟩
  | inputObject =>
    rw [kind] at listed
    exact ⟨rfl, List.mem_map.mpr
      ⟨ofInputObject config.registry target, List.mem_map_of_mem listed, named⟩⟩
  | object =>
    obtain ⟨object, member, named⟩ := reached kind
    exact ⟨rfl, List.mem_map.mpr ⟨ofObject config object, List.mem_map_of_mem member, named⟩⟩

theorem annotates_of_field (linked : schema.Linked) {type : NamedType String}
    {field : Field String} (mayOmit : Bool) (shown : schema.Shows type) (own : field ∈ type.fields)
    (reached : ∀ next, schema.returned? field = some next → next ∈ reachedObjects schema plans) :
    (ofPlans config schema plans).Annotates config.registry field.type
      (typeFor config.registry field.type mayOmit) := by
  obtain ⟨target, listed, found, named⟩ :=
    linked.exists_target shown (NamedType.mem_references_of_field own)
  refine annotates_typeFor mayOmit ⟨target, listed, named⟩ fun kind => ?_
  have isObject : target.kind = .object := (Schema.mem_ofKind.mp listed).2.1.trans kind
  obtain ⟨next, whole⟩ := Option.isSome_iff_exists.mp (NamedType.object?_isSome.mpr isObject)
  have returned := Schema.object?_eq_some.mpr ⟨target, found, whole⟩
  exact ⟨next, reached next returned, (NamedType.object?_eq_some.mp whole).1.symm.trans named⟩

theorem annotates_of_input (linked : schema.Linked) {type : NamedType String}
    {value : InputValue String} (mayOmit : Bool) (shown : schema.Shows type)
    (own : value ∈ type.inputs) :
    (ofPlans config schema plans).Annotates config.registry value.type
      (typeFor config.registry value.type mayOmit) := by
  obtain ⟨target, listed, -, named⟩ :=
    linked.exists_target shown (NamedType.mem_references_of_input own)
  refine annotates_typeFor mayOmit ⟨target, listed, named⟩ fun kind => ?_
  have input := linked.input type shown.1 value own
  rw [kind] at input
  cases input

theorem forall₂_distinctAttributes {α : Type} {module : RequestModule} {registry : ScalarRegistry}
    {type : α → TypeRef (NamedRef String)} {make : α → Attribute} (reserved : List String)
    {list : List α} (each : ∀ a ∈ list, module.Annotates registry (type a) (make a).type) :
    List.Forall₂ (fun a made => module.Annotates registry (type a) made.type) list
      (distinctAttributes reserved (list.map make)) :=
  forall₂_type_distinctAttributes (fun a => module.Annotates registry (type a)) reserved each

end Annotations

/-! ### What is reached -/

section Reached

variable {config : Config} {schema : Schema String} {plans : List (Plan String)}

theorem mem_reachedObjects {object : ObjectType String} : object ∈ reachedObjects schema plans ↔
    object ∈ schema.objects ∧ ∃ plan ∈ plans, object.name ∈ plan.reachable.keys := by
  simp [reachedObjects, FieldMap.keys]

theorem exists_selection_of_mem_reachedObjects (distinct : (schema.types.map (·.name)).Nodup)
    (planned : config.planAll schema = .ok plans) {object : ObjectType String}
    (listed : object ∈ reachedObjects schema plans) :
    ∃ selection, config.selection object = .ok selection := by
  obtain ⟨type, shown, -, whole⟩ := Schema.mem_objects.mp (mem_reachedObjects.mp listed).1
  have found := Schema.object?_of_mem distinct shown.1 whole
  exact Config.exists_selection_of_planAll_ok planned found

theorem build_of_planAll_ok (built : schema.Built) (planned : config.planAll schema = .ok plans) :
    build config schema plans = .ok (ofPlans config schema plans) :=
  build_eq fun _ => exists_selection_of_mem_reachedObjects built.distinct planned

variable (planned : config.planAll schema = .ok plans)
include planned

theorem shown_of_mem_plans {plan : Plan String} (member : plan ∈ plans) :
    (∃ type, schema.Shows type ∧ plan.field ∈ type.fields) ∧
    ∀ name, name ∈ plan.reachable.keys ↔
      ∃ object, schema.Reaches plan.field object ∧ object.name = name := by
  obtain ⟨operation, field, declared, here⟩ := Config.exists_field_of_planAll_ok planned member
  obtain ⟨rfl, listed⟩ := Config.reached_of_planField_ok here
  obtain ⟨other, inside, declared⟩ := List.mem_flatMap.mp declared
  obtain ⟨field, own, same⟩ := List.mem_map.mp declared
  obtain ⟨type, shown, whole⟩ := Schema.shows_of_mem_operations inside
  refine ⟨⟨type, shown, ?_⟩, listed⟩
  rw [NamedType.fields_of_object? whole, ← (Prod.mk.inj same).2]
  exact own

variable (built : schema.Built) (linked : schema.Linked)
include built linked

theorem mem_reachedObjects_iff {object : ObjectType String} :
    object ∈ reachedObjects schema plans ↔ ∃ plan ∈ plans, schema.Reaches plan.field object := by
  rw [mem_reachedObjects]
  constructor
  · rintro ⟨declared, plan, member, listed⟩
    obtain ⟨other, reached, named⟩ := ((shown_of_mem_plans planned member).2 _).mp listed
    obtain ⟨type, shown, -, whole⟩ := Schema.mem_objects.mp declared
    have found := built.object?_name shown.1 whole
    obtain rfl := Schema.object?_unique reached.found found named
    exact ⟨plan, member, reached⟩
  · rintro ⟨plan, member, reached⟩
    obtain ⟨⟨type, shown, own⟩, listed⟩ := shown_of_mem_plans planned member
    exact ⟨linked.reaches shown own reached, plan, member, (listed _).mpr ⟨object, reached, rfl⟩⟩

/-- What a field of a reached object type returns is reached as well, also if it is not selected. -/
theorem annotates_of_reached {object : ObjectType String}
    (listed : object ∈ reachedObjects schema plans) {field : Field String}
    (own : field ∈ object.fields) (mayOmit : Bool) :
    (ofPlans config schema plans).Annotates config.registry field.type
      (typeFor config.registry field.type mayOmit) := by
  obtain ⟨type, shown, -, whole⟩ := Schema.mem_objects.mp (mem_reachedObjects.mp listed).1
  obtain ⟨plan, member, reached⟩ := (mem_reachedObjects_iff planned built linked).mp listed
  refine annotates_of_field linked mayOmit shown (NamedType.fields_of_object? whole ▸ own) ?_
  intro next returned
  exact (mem_reachedObjects_iff planned built linked).mpr
    ⟨plan, member, .step reached own returned⟩

theorem annotates_of_result {plan : Plan String} (member : plan ∈ plans) :
    (ofPlans config schema plans).Annotates config.registry plan.field.type
      (typeFor config.registry plan.field.type false) := by
  obtain ⟨⟨type, shown, own⟩, -⟩ := shown_of_mem_plans planned member
  refine annotates_of_field linked false shown own fun next returned => ?_
  exact (mem_reachedObjects_iff planned built linked).mpr ⟨plan, member, .start returned⟩

theorem closed_ofPlans : (ofPlans config schema plans).Closed config schema plans where
  models model member := by
    obtain ⟨object, listed, rfl⟩ := List.mem_map.mp member
    obtain ⟨type, shown, -, whole⟩ := Schema.mem_objects.mp (mem_reachedObjects.mp listed).1
    refine ⟨object, built.object?_name shown.1 whole, forall₂_distinctAttributes _ ?_⟩
    exact fun field own => annotates_of_reached planned built linked listed own _
  inputs input member := by
    obtain ⟨type, listed, rfl⟩ := List.mem_map.mp member
    have shown := Schema.shows_of_mem_ofKind listed
    refine ⟨type, built.type?_eq_some.mpr ⟨shown.1, rfl⟩, forall₂_distinctAttributes _ ?_⟩
    exact fun value own => annotates_of_input linked _ shown (List.mem_append_right _ own)
  requests := by
    refine List.forall₂_map_right_iff.mpr (List.forall₂_same.mpr fun plan member => ?_)
    obtain ⟨⟨type, shown, own⟩, -⟩ := shown_of_mem_plans planned member
    refine ⟨annotates_of_result planned built linked member, forall₂_distinctAttributes _ ?_⟩
    exact fun value given =>
      annotates_of_input linked _ shown (NamedType.mem_inputs_of_argument own given)
  enums _ member := enumLine_mem_textLines member
  resolved _ listed := classLine_mem_textLines listed

end Reached

/-- A linked schema whose fields can all be planned has a module, and this defines what it names. -/
theorem build_closed {config : Config} {schema : Schema String} {plans : List (Plan String)}
    (built : schema.Built) (linked : schema.Linked) (planned : config.planAll schema = .ok plans) :
    ∃ module, build config schema plans = .ok module ∧ module.Closed config schema plans :=
  ⟨ofPlans config schema plans, build_of_planAll_ok built planned,
    closed_ofPlans planned built linked⟩

end RequestModule

/-! ### A schema with all kinds of classes -/

def harbour : Schema String where
  types := [
    { name := "Query",
      body := .object [{ name := "ships", type := .list (.named ⟨.object, "Ship"⟩),
                         arguments := [{ name := "like", type := .named ⟨.inputObject, "Like"⟩ }] }]
        [] },
    { name := "Ship",
      body := .object [{ name := "launched", type := .nonNull (.named ⟨.scalar, "Date"⟩) }] [] },
    { name := "Rig", body := .enum [{ name := "SLOOP" }, { name := "KETCH" }] },
    { name := "Like", body := .inputObject [{ name := "rig", type := .named ⟨.enum, "Rig"⟩ }] },
    { name := "Date", body := .scalar }]
  roots := ⟨"Query", none, none⟩

theorem harbour_built : harbour.Built := by decide

theorem harbour_linked : harbour.Linked where
  resolves := by decide
  input := by decide
  visible := by
    have plain : ∀ type ∈ harbour.types, ∀ ref ∈ type.references,
        isInternalName ref.name = false := by decide
    exact fun type shown => plain type shown.1

namespace Harbour

def shipsField : Field String where
  name := "ships"
  type := .list (.named ⟨.object, "Ship"⟩)
  arguments := [{ name := "like", type := .named ⟨.inputObject, "Like"⟩ }]

def ship : ObjectType String where
  name := "Ship"
  fields := [{ name := "launched", type := .nonNull (.named ⟨.scalar, "Date"⟩) }]

theorem exists_plans : ∃ plan, plan.field = shipsField ∧
    Config.planAll {} harbour = .ok [plan] := by
  let body := Text.unlines ["fragment ShipFragment on Ship \x7b", "  launched", "\x7d"]
  let operation : Operation String := ⟨.query, { name := "Query", fields := [shipsField] }⟩
  let plan : Plan String := ⟨operation, shipsField, [("Ship", shipsField)],
    [("ShipFragment", body)], [("ShipFragment", body)], ["ShipFragment"]⟩
  have walked : harbour.reachable shipsField = .ok [("Ship", shipsField)] := by cbv
  have tabled : Config.fragmentTable {} harbour [("Ship", shipsField)]
      = .ok [("ShipFragment", body)] := by decide +kernel
  have closed : Fragment.closure [("ShipFragment", body)] ["ShipFragment"]
      = .ok [("ShipFragment", body)] := by cbv
  have returned : harbour.returned? shipsField = some ship := rfl
  have planned : Config.planField {} harbour operation shipsField = .ok plan :=
    (Config.planField_ok returned).mpr ⟨rfl, rfl, walked, tabled, rfl, closed⟩
  refine ⟨plan, rfl, Config.planAll_ok.mpr ⟨rfl, ?_⟩⟩
  exact congrArg (· :: []) planned

end Harbour

open Harbour in
theorem RequestModule.build_closed_of_harbour : harbour.Built ∧ harbour.Linked ∧
    ∃ plan module, Config.planAll {} harbour = .ok [plan] ∧
      RequestModule.build {} harbour [plan] = .ok module ∧
      classLine "Ship" ∈ module.textLines ∧ classLine "Like" ∈ module.textLines ∧
      enumLine "Rig" ∈ module.textLines ∧ "import datetime as _datetime" ∈ module.textLines := by
  obtain ⟨plan, own, planned⟩ := exists_plans
  obtain ⟨module, done, models, inputs, requests, enums, resolved⟩ :=
    RequestModule.build_closed harbour_built harbour_linked planned
  obtain ⟨request, -, ⟨result, arguments⟩, -, -⟩ := List.forall₂_cons_left_iff.mp requests
  rw [own] at result arguments
  obtain ⟨argument, -, like, -, -⟩ := List.forall₂_cons_left_iff.mp arguments
  have ships : request.result.innermost = "Ship" ∧
    request.result.innermost ∈ module.models.map (·.name) := result
  have likes : argument.type.innermost = "Like" ∧
    argument.type.innermost ∈ module.inputs.map (·.name) := like
  have hasShip := ships.1 ▸ ships.2
  have hasLike := likes.1 ▸ likes.2
  refine ⟨harbour_built, harbour_linked, plan, module, planned, done, ?_, ?_, ?rig, ?date⟩
  · exact resolved _ (List.mem_append_left _ (List.mem_append_right _ hasShip))
  · exact resolved _ (List.mem_append_left _ (List.mem_append_left _ hasLike))
  case rig =>
    obtain ⟨input, member, named⟩ := List.mem_map.mp hasLike
    obtain ⟨type, found, values⟩ := inputs input member
    rw [named] at found
    obtain rfl := Option.some.inj found
    obtain ⟨made, -, rig, -, -⟩ := List.forall₂_cons_left_iff.mp values
    have rigs : made.type.innermost = "Rig" ∧
      made.type.innermost ∈ module.enums.map (·.name) := rig
    obtain ⟨enum, member, named⟩ := List.mem_map.mp rigs.2
    rw [← rigs.1, ← named]
    exact enums enum member
  case date =>
    obtain ⟨model, member, named⟩ := List.mem_map.mp hasShip
    obtain ⟨object, found, fields⟩ := models model member
    rw [named] at found
    obtain rfl := Option.some.inj found
    obtain ⟨made, -, ⟨written, imported⟩, -, -⟩ := List.forall₂_cons_left_iff.mp fields
    obtain ⟨source, imports, line⟩ := imported "_datetime" "date" (written.trans (by decide))
    obtain rfl : "datetime" = source := Option.some.inj imports
    exact line

end GraphqlRequests
