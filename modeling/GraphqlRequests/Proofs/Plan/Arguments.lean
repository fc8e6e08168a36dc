import GraphqlRequests.Proofs.Plan.Failures
import GraphqlRequests.Proofs.Schema.Linked

/-!
# Arguments below the root field

The root field of an operation is given its arguments. In fragments fields stand without any, and
nothing is left out because of an argument that it needs. So a field that cannot be called without
arguments is selected wherever an object type is reached that it is selected of.
-/

namespace GraphqlRequests

section Needs

variable {ν : Type}

/-- A value has to be given for an argument that must not be null and has no default. -/
def InputValue.isRequired (value : InputValue ν) : Bool :=
  !value.type.isNullable && value.default = .null

def Field.needsArguments (field : Field ν) : Bool :=
  field.arguments.any (·.isRequired)

end Needs

namespace Document

def Item.field? : Item → Option String
  | .leaf name | .nested name _ => some name
  | .spread _ => none

/-- A fragment on the object type selects the field. Documents that can be read have no arguments
there. -/
def Body.Selects {ν : Type} [Name ν] (body : Body) (object : ObjectType ν) (field : Field ν) :
    Prop :=
  ∃ d ∈ body.definitions, d.type = Name.shown object.name ∧
    ∃ item ∈ d.items, item.field? = some (Name.shown field.name)

end Document

variable {ν : Type} [DecidableEq ν] [Name ν]
variable {config : Config} {schema : Schema ν} {root object : ObjectType ν} {field : Field ν}
variable {objects : List (ObjectType ν)}

omit [DecidableEq ν] in
theorem Config.field?_item (field : Field ν) :
    (Config.item field).field? = some (Name.shown field.name) := by
  rw [item]
  split <;> rfl

theorem Config.selects_body (proper : schema.Proper)
    (found : ∀ object ∈ objects, schema.object? object.name = some object)
    (here : schema.object? object.name = some object) (own : field ∈ object.fields) :
    (config.body root objects).Selects object field ↔
      object ∈ objects ∧ field ∈ config.selectedFields object := by
  have declared := proper.object here
  constructor
  · rintro ⟨d, member, type, item, inside, named⟩
    obtain ⟨other, listed, rfl⟩ := List.mem_map.mp member
    have there := proper.object (found other listed)
    have same : other.name = object.name := (there.named.shown_inj declared.named).mp type
    obtain rfl := Schema.object?_unique (found other listed) here same
    obtain ⟨inner, selected, rfl⟩ := List.mem_map.mp inside
    rw [field?_item, Option.some.injEq] at named
    have declares := mem_of_mem_selectedFields selected
    have name := ((declared.fields inner declares).shown_inj (declared.fields field own)).mp named
    rw [← List.inj_on_of_nodup_map declared.distinct declares own name]
    exact ⟨listed, selected⟩
  · rintro ⟨listed, selected⟩
    exact ⟨config.definition object, List.mem_map_of_mem listed, rfl, Config.item field,
      List.mem_map_of_mem selected, field?_item field⟩

section Planned

variable {schema : Schema String} {plans : List (Plan String)} {plan : Plan String}

/-- Arguments make no difference to what the fragments of a plan select: these are the selected
fields of the object types that are reached through selected fields, and they stand without
arguments. So a field that needs arguments is selected exactly where it is a selected field of such
an object type. -/
theorem Config.planAll_selects_exact (proper : schema.Proper)
    (planned : config.planAll schema = .ok plans) (member : plan ∈ plans) :
    (schema.returned? plan.field = none → plan.fragments = []) ∧
    ∀ root, schema.returned? plan.field = some root →
      ∃ body : Document.Body, plan.Reads body ∧
        plan.fragments = body.definitions.map (·.entry) ∧
        (∀ object field, schema.object? object.name = some object → field ∈ object.fields →
          (body.Selects object field ↔
            config.SelectReaches schema root object ∧ field ∈ config.selectedFields object)) ∧
        ((∃ object field, schema.object? object.name = some object ∧ field ∈ object.fields ∧
            body.Selects object field ∧ field.needsArguments = true) ↔
          ∃ object, config.SelectReaches schema root object ∧
            ∃ field ∈ config.selectedFields object, field.needsArguments = true) := by
  obtain ⟨operation, field, -, here⟩ := exists_field_of_planAll_ok planned member
  obtain ⟨rfl, -⟩ := reached_of_planField_ok here
  constructor
  · intro none
    rw [planField_leaf none here]
  intro root returned
  have parts := (planField_ok returned).mp here
  obtain ⟨objects, fragments, all, -, -⟩ := parts.fragments_eq proper returned
  have found : ∀ object, config.SelectReaches schema root object →
      schema.object? object.name = some object := fun _ reached => (reached.reaches returned).found
  have selects : ∀ object field, schema.object? object.name = some object →
      field ∈ object.fields → ((config.body root objects).Selects object field ↔
        config.SelectReaches schema root object ∧ field ∈ config.selectedFields object) := by
    intro object field known own
    rw [← all]
    exact selects_body proper (fun other listed => found other ((all other).mp listed)) known own
  refine ⟨config.body root objects, parts.reads proper returned fragments all, ?_, selects, ?_⟩
  · rw [fragments, body, List.map_map]
    rfl
  · constructor
    · rintro ⟨object, field, known, own, selected, needs⟩
      obtain ⟨reached, configured⟩ := (selects object field known own).mp selected
      exact ⟨object, reached, field, configured, needs⟩
    · rintro ⟨object, reached, field, configured, needs⟩
      have own := mem_of_mem_selectedFields configured
      have known := found object reached
      exact ⟨object, field, known, own, (selects object field known own).mpr ⟨reached, configured⟩,
        needs⟩

end Planned

/-! ### Readings at a time -/

def weather : Schema String where
  types := [
    { name := "Query",
      body := .object [{ name := "station", type := .named ⟨.object, "Station"⟩ }] [] },
    { name := "Station",
      body := .object [{ name := "name", type := .named ⟨.scalar, "String"⟩ },
        { name := "reading", type := .named ⟨.scalar, "Float"⟩,
          arguments := [{ name := "at", type := .nonNull (.named ⟨.scalar, "Int"⟩) }] }] [] },
    { name := "String", body := .scalar },
    { name := "Float", body := .scalar },
    { name := "Int", body := .scalar }]
  roots := ⟨"Query", none, none⟩

theorem weather_built : weather.Built := by decide

theorem weather_linked : weather.Linked where
  resolves := by decide
  input := by decide
  visible := by
    have plain : ∀ type ∈ weather.types, ∀ ref ∈ type.references,
        isInternalName ref.name = false := by decide
    exact fun type shown => plain type shown.1

theorem weather_proper : weather.Proper := by
  intro type member object whole
  simp only [weather, List.mem_cons, List.not_mem_nil, or_false] at member
  rcases member with rfl | rfl | rfl | rfl | rfl <;> cases whole
  all_goals exact ⟨by decide, by decide, by decide, by decide, by decide⟩

namespace Weather

def readingField : Field String where
  name := "reading"
  type := .named ⟨.scalar, "Float"⟩
  arguments := [{ name := "at", type := .nonNull (.named ⟨.scalar, "Int"⟩) }]

def station : ObjectType String where
  name := "Station"
  fields := [{ name := "name", type := .named ⟨.scalar, "String"⟩ }, readingField]

def stationField : Field String where
  name := "station"
  type := .named ⟨.object, "Station"⟩

def stationBody : String :=
  Text.unlines ["fragment StationFragment on Station \x7b", "  name", "  reading", "\x7d"]

def stationPlan : Plan String where
  operation := ⟨.query, { name := "Query", fields := [stationField] }⟩
  field := stationField
  reachable := [("Station", stationField)]
  table := [("StationFragment", stationBody)]
  fragments := [("StationFragment", stationBody)]
  rootKeys := ["StationFragment"]

theorem returned_stationField : weather.returned? stationField = some station := rfl

theorem planned : Config.planAll {} weather = .ok [stationPlan] := by
  have walked : weather.reachable stationField = .ok stationPlan.reachable := by cbv
  have tabled : Config.fragmentTable {} weather stationPlan.reachable = .ok stationPlan.table := by
    decide +kernel
  have closed : Fragment.closure stationPlan.table stationPlan.rootKeys
      = .ok stationPlan.fragments := by cbv
  have single : Config.planField {} weather stationPlan.operation stationField = .ok stationPlan :=
    (Config.planField_ok returned_stationField).mpr ⟨rfl, rfl, walked, tabled, rfl, closed⟩
  exact Config.planAll_ok.mpr ⟨rfl, congrArg (· :: []) single⟩

end Weather

open Weather in
theorem Config.planAll_selects_exact_of_weather : weather.Proper ∧
    Config.planAll {} weather = .ok [stationPlan] ∧ readingField.needsArguments = true ∧
    ∃ body, stationPlan.Reads body ∧ body.Selects station readingField := by
  have member : stationPlan ∈ [stationPlan] := List.mem_singleton_self _
  obtain ⟨-, exact⟩ := Config.planAll_selects_exact weather_proper planned member
  obtain ⟨body, reads, -, selects, -⟩ := exact station returned_stationField
  have own : readingField ∈ station.fields := by decide
  have selected : readingField ∈ Config.selectedFields {} station := by decide
  exact ⟨weather_proper, planned, rfl, body, reads,
    (selects station readingField rfl own).mpr ⟨.root, selected⟩⟩

open Weather in
/-- All fields are planned, and the fragment for stations selects the reading without its time. -/
theorem Config.planAll_weather :
    weather.Built ∧ weather.Linked ∧ weather.Proper ∧
    Config.planAll {} weather = .ok [stationPlan] ∧
    ("StationFragment", Text.unlines
      ["fragment StationFragment on Station \x7b", "  name", "  reading", "\x7d"])
      ∈ stationPlan.fragments ∧
    weather.object? "Station" = some station ∧ readingField ∈ station.fields ∧
    ∃ argument ∈ readingField.arguments, argument.type.isNullable = false ∧
      argument.default = .null := by
  refine ⟨weather_built, weather_linked, weather_proper, planned, List.mem_singleton_self _, rfl,
    by decide, ?_⟩
  exact ⟨{ name := "at", type := .nonNull (.named ⟨.scalar, "Int"⟩) }, List.mem_singleton_self _,
    rfl, rfl⟩

end GraphqlRequests
