import GraphqlRequests.Proofs.Document.Response
import GraphqlRequests.Proofs.Plan.Arguments
import GraphqlRequests.Proofs.Plan.Unfolding
import GraphqlRequests.Proofs.RequestModule.Annotation
import GraphqlRequests.Proofs.RequestModule.Closed
import GraphqlRequests.Proofs.RequestModule.Names
import GraphqlRequests.Proofs.Selection.Spread

/-!
# What models require

A model requires a field that must not be null where it is selected. Fragments and models are made
apart, for each plan and for all of them together, from one selection for each type; so the answer
to a document has all that the models require.
-/

namespace GraphqlRequests

open Document (Answers Body Definition Inside Item)

/-! ### The selections in a fragment -/

namespace Document

/-- The names of the fields that the text of a fragment selects. -/
def selectedIn? (text : String) : Option (List String) := do
  let tokens ← Sdl.tokens? text
  match ← readDefinitions tokens.length tokens with
  | [d] => return d.items.filterMap Item.field?
  | _ => none

theorem selectedIn?_lines {d : Definition} (named : d.Named) :
    selectedIn? (Text.unlines d.lines) = some (d.items.filterMap Item.field?) := by
  have read : readDefinitions _ ([d].flatMap Definition.tokens) = some [d] :=
    readDefinitions_tokens (by simpa using named) (length_le_length_flatMap_tokens [d])
  rw [List.flatMap_singleton] at read
  rw [selectedIn?, tokens?_unlines (linesLex_definition named) (List.cons_ne_nil _ _)]
  simp [read]

end Document

variable {config : Config} {schema : Schema String} {plans : List (Plan String)}
variable {plan : Plan String} {root object : ObjectType String}

theorem Config.selectedIn?_fragment (legible : object.Legible) {selection : Selection String}
    (made : config.selection object = .ok selection) {body : String}
    (done : selection.fragment = .ok body) :
    Document.selectedIn? body = some selection.selected := by
  have inside : ∀ field ∈ config.selectedFields object, field ∈ object.fields :=
    fun _ => mem_of_mem_selectedFields
  obtain rfl := selection_ok made
  have whole := Selection.fragment_ok legible.fields legible.distinct inside
    (legible.named_items inside) done
  rw [whole, Document.selectedIn?_lines (legible.definition_named inside), ObjectType.definition,
    List.filterMap_map]
  refine congrArg some ?_
  exact List.filterMap_eq_map_iff_forall_eq_some.mpr fun field _ => field?_item field

theorem Config.fragmentTable_of_planField_ok {operation : Operation String} {field : Field String}
    (planned : config.planField schema operation field = .ok plan) :
    config.fragmentTable schema plan.reachable = .ok plan.table := by
  cases returned : schema.returned? field with
  | none =>
    obtain rfl := planField_leaf returned planned
    rfl
  | some root => exact ((planField_ok returned).mp planned).table

/-- The body under the key of a type is what is rendered of its selection, in each table. -/
theorem Config.fragment_of_mem_table (planned : config.planAll schema = .ok plans)
    (member : plan ∈ plans) (found : schema.object? object.name = some object)
    {selection : Selection String} (made : config.selection object = .ok selection) {body : String}
    (held : (Fragment.key object.name, body) ∈ plan.table) : selection.fragment = .ok body := by
  obtain ⟨operation, field, -, here⟩ := exists_field_of_planAll_ok planned member
  obtain ⟨steps, -, -⟩ := fragmentTable_ok (fragmentTable_of_planField_ok here)
  obtain ⟨type, -, done⟩ := exists_of_mem_mapM steps _ held
  obtain rfl : object.name = type := key_injective (key_of_fragment done)
  obtain ⟨same, again, rendered, -⟩ := parts_of_fragment found done
  rw [made] at again
  cases again
  exact rendered

theorem Config.key_mem_table (planned : config.planAll schema = .ok plans) (member : plan ∈ plans)
    {type : String} (listed : type ∈ plan.reachable.keys) :
    Fragment.key type ∈ plan.table.keys := by
  obtain ⟨operation, field, -, here⟩ := exists_field_of_planAll_ok planned member
  obtain ⟨-, keys, -⟩ := fragmentTable_ok (fragmentTable_of_planField_ok here)
  rw [keys]
  refine List.mem_map_of_mem ((Text.mem_sorted _ _).mpr ?_)
  simpa [FieldMap.keys] using listed

/-! ### Attributes of models -/

namespace RequestModule

theorem forall₂_ofObject (config : Config) (object : ObjectType String) :
    List.Forall₂ (fun field made => made.sourceName = field.name ∧ (made.required = true ↔
        field.type.isNullable = false ∧ field.name ∈ (config.selectedFields object).map (·.name)))
      object.fields (ofObject config object).attributes := by
  refine forall₂_distinctAttributes_of_blind (fun a => (a.sourceName, a.type))
    (fun _ _ => rfl) (fun (field : Field String) (made : String × CodeRef String) =>
      made.1 = field.name ∧ ((!made.2.isOptional) = true ↔ field.type.isNullable = false ∧
        field.name ∈ (config.selectedFields object).map (·.name))) modelMembers fun field _ => ?_
  have outside := (mirrors_typeFor config.registry field.type
    (field.name ∉ (config.selectedFields object).map (·.name))).outside
  refine ⟨rfl, ?_⟩
  rw [ofField, outside]
  simp

end RequestModule

/-! ### Answers to documents -/

/-- What is selected below a field: the spread of the fragment for the type that it returns. -/
def Schema.spreadBelow (schema : Schema String) (field : Field String) : List Item :=
  match schema.returned? field with
  | none => []
  | some next => [.spread (Fragment.key next.name)]

theorem item_spreadBelow (proper : schema.Proper) (declared : object.Proper schema)
    {field : Field String} (member : field ∈ object.fields) (fine : schema.offends field = false) :
    Config.item field = .leaf field.name ∧ schema.spreadBelow field = [] ∨
      Config.item field = .nested field.name (schema.spreadBelow field) := by
  rw [item_eq proper declared member fine, Schema.spreadBelow]
  cases schema.returned? field with
  | none => exact .inl ⟨rfl, rfl⟩
  | some next => exact .inr rfl

theorem asks_items_iff (body : Body) (type : String) {fields : List (Field String)}
    (shape : ∀ field ∈ fields,
      Config.item field = .leaf field.name ∧ schema.spreadBelow field = [] ∨
        Config.item field = .nested field.name (schema.spreadBelow field))
    {name : String} {inner : List Item} :
    body.Asks type (fields.map Config.item) name inner ↔
      ∃ field ∈ fields, field.name = name ∧ inner = schema.spreadBelow field := by
  constructor
  · intro asks
    cases asks with
    | leaf member =>
      obtain ⟨field, inside, same⟩ := List.mem_map.mp member
      rcases shape field inside with ⟨leaf, none⟩ | nested
      · exact ⟨field, inside, Item.leaf.inj (leaf.symm.trans same), none.symm⟩
      · cases nested.symm.trans same
    | nested member =>
      obtain ⟨field, inside, same⟩ := List.mem_map.mp member
      rcases shape field inside with ⟨leaf, -⟩ | nested
      · cases leaf.symm.trans same
      · obtain ⟨named, below⟩ := Item.nested.inj (nested.symm.trans same)
        exact ⟨field, inside, named, below.symm⟩
    | spread member =>
      obtain ⟨field, inside, same⟩ := List.mem_map.mp member
      rcases shape field inside with ⟨leaf, -⟩ | nested
      · cases leaf.symm.trans same
      · cases nested.symm.trans same
  · rintro ⟨field, inside, rfl, rfl⟩
    have member := List.mem_map_of_mem (f := Config.item) inside
    rcases shape field inside with ⟨leaf, none⟩ | nested
    · rw [none]
      exact .leaf (leaf ▸ member)
    · exact .nested (nested ▸ member)

section Answers

variable {field : Field String} {operation : Operation String} {objects : List (ObjectType String)}
variable (planned : config.Planned schema operation field root plan) (proper : schema.Proper)
variable (returned : schema.returned? field = some root)
variable (all : ∀ object, object ∈ objects ↔ config.SelectReaches schema root object)
include planned proper returned all

theorem Config.Planned.asks_iff (reached : config.SelectReaches schema root object)
    {items : List Item} (spread : ∀ item, item ∈ items ↔ item = .spread (Fragment.key object.name))
    {name : String} {inner : List Item} :
    (config.body root objects).Asks object.name items name inner ↔
      ∃ field ∈ config.selectedFields object, field.name = name ∧
        inner = schema.spreadBelow field := by
  have defined := definition?_eq proper returned all reached
  have there := reached.reaches returned
  have shape : ∀ field ∈ config.selectedFields object,
      Config.item field = .leaf field.name ∧ schema.spreadBelow field = [] ∨
        Config.item field = .nested field.name (schema.spreadBelow field) := by
    intro field selected
    have own := mem_of_mem_selectedFields selected
    have fine := there.fine planned.reachable field own
    exact item_spreadBelow proper (there.declared proper) own fine
  rw [← asks_items_iff (config.body root objects) object.name shape]
  constructor
  · intro asks
    cases asks with
    | leaf member => cases (spread _).mp member
    | nested member => cases (spread _).mp member
    | spread member other applies asks =>
      cases (spread _).mp member
      cases defined.symm.trans other
      exact asks
  · exact fun asks => .spread ((spread _).mpr rfl) defined rfl asks

theorem Config.Planned.asks_field_iff (reached : config.SelectReaches schema root object)
    {items : List Item} (spread : ∀ item, item ∈ items ↔ item = .spread (Fragment.key object.name))
    {met : Field String} (own : met ∈ object.fields) (inner : List Item) :
    (config.body root objects).Asks object.name items met.name inner ↔
      met ∈ config.selectedFields object ∧ inner = schema.spreadBelow met := by
  have distinct := ((reached.reaches returned).declared proper).distinct
  rw [planned.asks_iff proper returned all reached spread]
  constructor
  · rintro ⟨other, selected, named, same⟩
    obtain rfl : other = met :=
      List.inj_on_of_nodup_map distinct (mem_of_mem_selectedFields selected) own named
    exact ⟨selected, same⟩
  · exact fun ⟨selected, same⟩ => ⟨met, selected, rfl, same⟩

/-- An object inside of an answer has the selected fields of its type, and none of them is null that
must not be. -/
theorem Config.Planned.exists_given {type : TypeRef (NamedRef String)} {items : List Item}
    {value : Json} {members : List (String × Json)}
    (inside : Inside schema type value object members)
    (answers : Answers schema (config.body root objects) type items value)
    (spread : ∀ next, schema.object? type.innermost.name = some next →
      config.SelectReaches schema root next ∧
        ∀ item, item ∈ items ↔ item = .spread (Fragment.key next.name)) :
    ∀ field ∈ config.selectedFields object, ∃ value, Json.member? field.name members = some value ∧
      (field.type.isNullable = false → value ≠ .null) := by
  -- On the way down each object is asked for with its own fragment.
  induction inside generalizing items with
  | here found =>
    obtain ⟨reached, spreads⟩ := spread _ found
    obtain ⟨asked, _, -, each⟩ := answers.of_object found
    intro field selected
    have own := mem_of_mem_selectedFields selected
    have asks :=
      (planned.asks_field_iff proper returned all reached spreads own _).mpr ⟨selected, rfl⟩
    obtain ⟨value, given⟩ := Option.isSome_iff_exists.mp ((asked field.name).mpr ⟨_, asks⟩)
    exact ⟨value, given, (each field own value given).ne_null⟩
  | @member _ _ met _ value _ _ found own given _ ih =>
    obtain ⟨reached, spreads⟩ := spread _ found
    obtain ⟨asked, _, together, each⟩ := answers.of_object found
    have asks := planned.asks_field_iff proper returned all reached spreads own
    -- What is given has been asked for, so that the field is a selected one.
    obtain ⟨inner, wanted⟩ := (asked met.name).mp (Option.isSome_iff_exists.mpr ⟨value, given⟩)
    have selected := ((asks inner).mp wanted).1
    refine ih (each met own value given) fun next returns => ⟨.step reached selected returns, ?_⟩
    have below : schema.spreadBelow met = [.spread (Fragment.key next.name)] := by
      rw [Schema.spreadBelow, Schema.returned?, returns]
    intro item
    rw [together]
    simp only [asks, selected, true_and, exists_eq_left, below, List.mem_singleton]
  | item member _ ih =>
    cases answers with
    | list each => exact ih (each _ member) spread
  | nonNull _ ih =>
    cases answers with
    | null nullable => cases nullable
    | nonNull _ answers => exact ih answers spread

end Answers

theorem Plan.Reads.unique {first second : Body} (reads : plan.Reads first)
    (also : plan.Reads second) : first = second := by
  obtain ⟨rest, text, read⟩ := reads
  obtain ⟨other, same, again⟩ := also
  obtain rfl := String.append_right_inj _ |>.mp (text.symm.trans same)
  exact Option.some.inj (read.symm.trans again)

theorem Config.exists_given_of_planAll (proper : schema.Proper)
    (planned : config.planAll schema = .ok plans) (member : plan ∈ plans)
    (returned : schema.returned? plan.field = some root) :
    ∃ body, (∀ other, plan.Reads other ↔ other = body) ∧
      ∀ value, Answers schema body plan.field.type body.root value →
      ∀ object members, Inside schema plan.field.type value object members →
      ∀ field ∈ config.selectedFields object,
        ∃ given, Json.member? field.name members = some given ∧
          (field.type.isNullable = false → given ≠ .null) := by
  obtain ⟨operation, field, -, here⟩ := exists_field_of_planAll_ok planned member
  obtain ⟨rfl, -⟩ := reached_of_planField_ok here
  have parts := (planField_ok returned).mp here
  obtain ⟨objects, fragments, all, -, -⟩ := parts.fragments_eq proper returned
  have reads := parts.reads proper returned fragments all
  refine ⟨_, fun other => ⟨(·.unique reads), fun same => same ▸ reads⟩, ?_⟩
  intro value answers object members inside
  refine parts.exists_given proper returned all inside answers fun next found => ?_
  cases returned.symm.trans found
  exact ⟨.root, fun item => List.mem_singleton⟩

namespace RequestModule

/-- A model stands for an object type: it has an attribute for each field, and what must be given is
what all fragments for the type select of the fields that must not be null. -/
structure Models (config : Config) (schema : Schema String) (plans : List (Plan String))
    (model : ModelClass) (object : ObjectType String) (selection : Selection String) : Prop where
  found : schema.object? model.name = some object
  selected : config.selection object = .ok selection
  attributes : List.Forall₂ (fun field made => made.sourceName = field.name ∧
    (made.required = true ↔ field.type.isNullable = false ∧ field.name ∈ selection.selected))
    object.fields model.attributes
  tabled : ∃ plan ∈ plans, Fragment.key model.name ∈ plan.table.keys
  fragments : ∀ plan ∈ plans, ∀ body, (Fragment.key model.name, body) ∈ plan.table →
    selection.fragment = .ok body
  read : object.Legible → List.Forall₂ (fun field made => made.required = true ↔
    field.type.isNullable = false ∧ ∀ plan ∈ plans, ∀ body,
      (Fragment.key model.name, body) ∈ plan.table →
        ∃ names, Document.selectedIn? body = some names ∧ field.name ∈ names)
    object.fields model.attributes

theorem models_ofObject (built : schema.Built) (planned : config.planAll schema = .ok plans)
    (listed : object ∈ reachedObjects schema plans) :
    ∃ selection, Models config schema plans (ofObject config object) object selection := by
  obtain ⟨declared, plan, member, reached⟩ := mem_reachedObjects.mp listed
  obtain ⟨type, shown, -, whole⟩ := Schema.mem_objects.mp declared
  have found := built.object?_name shown.1 whole
  obtain ⟨selection, made⟩ := exists_selection_of_mem_reachedObjects built.distinct planned listed
  have attributes := forall₂_ofObject config object
  have selected : (config.selectedFields object).map (·.name) = selection.selected := by
    rw [Config.selection_ok made]
  rw [selected] at attributes
  have tabled := Config.key_mem_table planned member reached
  have rendered : ∀ plan ∈ plans, ∀ body, (Fragment.key object.name, body) ∈ plan.table →
      selection.fragment = .ok body :=
    fun plan member body held => Config.fragment_of_mem_table planned member found made held
  refine ⟨selection, found, made, attributes, ⟨plan, member, tabled⟩, rendered, fun legible => ?_⟩
  -- All plans have the same fragment for the type, so one of them speaks for each.
  refine attributes.imp fun field given ⟨_, required⟩ => required.trans ?_
  refine and_congr_right fun _ => ⟨fun inside plan member body held => ?_, fun all => ?_⟩
  · exact ⟨_, Config.selectedIn?_fragment legible made (rendered plan member body held), inside⟩
  · obtain ⟨body, held⟩ := Fragment.Table.mem_keys.mp tabled
    obtain ⟨names, read, inside⟩ := all plan member body held
    rw [Config.selectedIn?_fragment legible made (rendered plan member body held)] at read
    rwa [Option.some.inj read]

/-- A schema whose fields can all be planned has a module with a model for each object type that a
plan reaches, introspection types apart. In an answer to a document that is planned, wherever an
object of such a type stands, it has all that its model requires, and none of that is null. -/
theorem models_require_selected (built : schema.Built)
    (planned : config.planAll schema = .ok plans) :
    ∃ module, build config schema plans = .ok module ∧
      module.models.map (·.name) = (schema.objects.map (·.name)).filter
        (· ∈ plans.flatMap fun plan => plan.reachable.map Prod.fst) ∧
      (module.models.map (·.name)).Nodup ∧
      (∀ model ∈ module.models, ∃ object selection,
        Models config schema plans model object selection) ∧
      (schema.Proper → ∀ plan ∈ plans, ∀ root, schema.returned? plan.field = some root →
        ∃ body, (∀ other, plan.Reads other ↔ other = body) ∧
          ∀ value, Answers schema body plan.field.type body.root value →
          ∀ object members, Inside schema plan.field.type value object members →
          ∀ model ∈ module.models, model.name = object.name →
          ∀ made ∈ model.attributes, made.required = true →
            ∃ given, Json.member? made.sourceName members = some given ∧ given ≠ .null) := by
  have names : (ofPlans config schema plans).models.map (·.name)
      = (reachedObjects schema plans).map (·.name) := by
    rw [ofPlans, List.map_map]
    rfl
  refine ⟨ofPlans config schema plans, build_of_planAll_ok built planned, ?_, ?_, ?_, ?_⟩
  · rw [names, reachedObjects, List.filter_map]
    rfl
  · rw [names]
    exact (built.nodup_map_name .object).sublist (sublist_reachedObjects schema plans)
  · intro model member
    obtain ⟨object, listed, rfl⟩ := List.mem_map.mp member
    exact ⟨object, models_ofObject built planned listed⟩
  · intro proper plan member root returned
    obtain ⟨body, reads, holds⟩ :=
      Config.exists_given_of_planAll proper planned member returned
    refine ⟨body, reads, ?_⟩
    intro value answers object members inside model listed named made own required
    obtain ⟨other, reached, rfl⟩ := List.mem_map.mp listed
    obtain ⟨selection, models⟩ := models_ofObject built planned reached
    obtain rfl : other = object :=
      Schema.object?_unique models.found inside.found named
    obtain ⟨field, declared, source, given⟩ := exists_of_mem_forall₂ models.attributes made own
    obtain ⟨strict, chosen⟩ := given.mp required
    rw [Config.selection_ok models.selected] at chosen
    obtain ⟨same, selected, name⟩ := List.mem_map.mp chosen
    obtain rfl : same = field := List.inj_on_of_nodup_map (proper.object inside.found).distinct
      (Config.mem_of_mem_selectedFields selected) declared name
    obtain ⟨value, present, some⟩ := holds value answers _ members inside same selected
    exact ⟨value, source ▸ present, some strict⟩

end RequestModule

theorem harbour_proper : harbour.Proper := by
  intro type member object whole
  simp only [harbour, List.mem_cons, List.not_mem_nil, or_false] at member
  rcases member with rfl | rfl | rfl | rfl | rfl <;> cases whole
  all_goals exact ⟨by decide, by decide, by decide, by decide, by decide⟩

namespace Harbour

def answer : Json :=
  .array [.object [("launched", .string "2020-01-01")]]

theorem inside_answer : Inside harbour shipsField.type answer ship
    [("launched", .string "2020-01-01")] :=
  .item (List.mem_singleton_self _) (.here rfl)

theorem returned_shipsField : harbour.returned? shipsField = some ship := rfl

theorem exists_planField {plan : Plan String} (planned : Config.planAll {} harbour = .ok [plan])
    (own : plan.field = shipsField) :
    ∃ operation, Config.planField {} harbour operation shipsField = .ok plan := by
  obtain ⟨operation, field, -, here⟩ :=
    Config.exists_field_of_planAll_ok planned (List.mem_singleton_self _)
  obtain rfl : field = shipsField := (Config.reached_of_planField_ok here).1.symm.trans own
  exact ⟨operation, here⟩

theorem exists_answers {plan : Plan String} (planned : Config.planAll {} harbour = .ok [plan])
    (own : plan.field = shipsField) : ∃ body, plan.Reads body ∧
      Answers harbour body plan.field.type body.root answer := by
  obtain ⟨operation, here⟩ := exists_planField planned own
  have returned := returned_shipsField
  have parts := (Config.planField_ok returned).mp here
  obtain ⟨objects, fragments, all, -, -⟩ := parts.fragments_eq harbour_proper returned
  refine ⟨_, parts.reads harbour_proper returned fragments all, own ▸ .list fun value member => ?_⟩
  obtain rfl := List.mem_singleton.mp member
  have asks {name : String} {inner : List Item} :
      (Config.body {} ship objects).Asks ship.name (Config.body {} ship objects).root name inner ↔
        "launched" = name ∧ inner = [] := by
    refine (parts.asks_iff harbour_proper returned all .root fun _ => List.mem_singleton).trans ?_
    constructor
    · rintro ⟨field, selected, rfl, rfl⟩
      obtain rfl := List.mem_singleton.mp selected
      exact ⟨rfl, rfl⟩
    · rintro ⟨rfl, rfl⟩
      exact ⟨_, List.mem_singleton_self _, rfl, rfl⟩
  refine .object (fun _ => []) returned (fun name => ?asked) (fun name item => ?together)
    fun field declared value given => ?each
  case asked => simp [Json.member?, asks]
  case together => simp [asks]
  case each =>
    obtain rfl := List.mem_singleton.mp declared
    cases given
    exact .nonNull Json.noConfusion (.leaf rfl)

end Harbour

open Harbour in
theorem RequestModule.models_require_selected_of_harbour : harbour.Built ∧
    ∃ plan module body, Config.planAll {} harbour = .ok [plan] ∧
      RequestModule.build {} harbour [plan] = .ok module ∧ plan.Reads body ∧
      Answers harbour body plan.field.type body.root answer ∧
      ∃ model ∈ module.models, model.name = "Ship" ∧
        ∃ made ∈ model.attributes, made.sourceName = "launched" ∧ made.required = true ∧
          ∃ given, Json.member? "launched" [("launched", .string "2020-01-01")] = some given ∧
            given ≠ .null := by
  obtain ⟨plan, own, planned⟩ := exists_plans
  obtain ⟨module, done, names, -, models, given⟩ :=
    RequestModule.models_require_selected harbour_built planned
  obtain ⟨answered, reads, answers⟩ := exists_answers planned own
  obtain ⟨body, only, given⟩ :=
    given harbour_proper plan (List.mem_singleton_self _) ship (own ▸ returned_shipsField)
  obtain rfl := (only answered).mp reads
  obtain ⟨operation, here⟩ := exists_planField planned own
  have listed : "Ship" ∈ module.models.map (·.name) := by
    have reached : "Ship" ∈ plan.reachable.map Prod.fst :=
      ((Config.reached_of_planField_ok here).2 "Ship").mpr ⟨ship, .start returned_shipsField, rfl⟩
    rw [names, List.flatMap_singleton]
    exact List.mem_filter.mpr ⟨by decide, decide_eq_true reached⟩
  obtain ⟨model, member, named⟩ := List.mem_map.mp listed
  obtain ⟨object, selection, found, selected, attributes, -, -, -⟩ := models model member
  rw [named] at found
  obtain rfl : ship = object := Option.some.inj found
  obtain ⟨made, rest, ⟨source, required⟩, -, attributes⟩ :=
    List.forall₂_cons_left_iff.mp attributes
  have inside : made ∈ model.attributes := attributes ▸ List.mem_cons_self
  have chosen : "launched" ∈ selection.selected := by
    rw [Config.selection_ok selected]
    decide
  have strict := required.mpr ⟨rfl, chosen⟩
  refine ⟨harbour_built, plan, module, answered, planned, done, reads, answers, model, member,
    named, made, inside, source, strict, ?_⟩
  obtain ⟨value, there, some⟩ :=
    given answer answers ship _ (own ▸ inside_answer) model member named made inside strict
  rw [source] at there
  exact ⟨value, there, some⟩

end GraphqlRequests
