import GraphqlRequests.Proofs.Plan.Document

/-!
# Documents are closed and minimal

Whatever a document spreads it defines once, and whatever it defines is spread, directly or through
other fragments, on the root field.
-/

namespace GraphqlRequests

variable {ν : Type} [DecidableEq ν] [Name ν]
variable {config : Config} {schema : Schema ν} {operation : Operation ν} {field : Field ν}
variable {root object : ObjectType ν}
variable {plan : Plan ν} {objects : List (ObjectType ν)}

theorem Config.selectReaches_of_reaches (none : config.selections = [])
    (returned : schema.returned? field = some root) (reached : schema.Reaches field object) :
    config.SelectReaches schema root object := by
  induction reached with
  | start here =>
    obtain rfl := Option.some.inj (returned.symm.trans here)
    exact .root
  | step _ member below ih =>
    exact .step ih (by rwa [Config.selectedFields_eq none]) below

namespace Config.Planned

variable (planned : config.Planned schema operation field root plan) (proper : schema.Proper)
variable (returned : schema.returned? field = some root)
include planned proper returned

theorem fragments_perm (none : config.selections = []) :
    plan.fragments.Perm plan.table := by
  obtain ⟨tabled, table, reached, distinct⟩ := planned.table_eq proper
  obtain ⟨objects, fragments, selected, once, -⟩ := planned.fragments_eq proper returned
  refine (List.perm_ext_iff_of_nodup once.of_map distinct.of_map).mpr ?_
  have same : ∀ object, object ∈ objects ↔ object ∈ tabled := by
    intro object
    rw [selected, reached]
    exact ⟨fun here => here.reaches returned, selectReaches_of_reaches none returned⟩
  intro e
  rw [fragments, table, List.mem_map, List.mem_map]
  simp only [same]

variable (all : ∀ object, object ∈ objects ↔ config.SelectReaches schema root object)
include all

theorem spreads_subset :
    ∀ key ∈ (config.body root objects).spreads, key ∈ (config.body root objects).keys := by
  have defined : ∀ object, config.SelectReaches schema root object →
      Fragment.key (Name.shown object.name) ∈ (config.body root objects).keys := by
    intro object reached
    rw [Document.Body.keys, Config.body, List.map_map]
    exact List.mem_map_of_mem ((all object).mpr reached)
  intro key spread
  rcases List.mem_append.mp spread with here | inside
  · obtain rfl : key = Fragment.key (Name.shown root.name) := by
      simpa [Config.body, Document.spreads] using here
    exact defined root .root
  · obtain ⟨d, member, held⟩ := List.mem_flatMap.mp inside
    obtain ⟨object, listed, rfl⟩ := List.mem_map.mp member
    have reached := (all object).mp listed
    have there := reached.reaches returned
    obtain ⟨inner, selected, next, below, rfl⟩ := (mem_spreads_definition proper
      (there.declared proper) (there.fine planned.reachable)).mp held
    exact defined next (.step reached selected below)

theorem needs (reached : config.SelectReaches schema root object) :
    (config.body root objects).Needs (Fragment.key (Name.shown object.name)) := by
  induction reached with
  | root => exact .root (by simp [Config.body, Document.spreads])
  | @step object inner next before member below ih =>
    have there := before.reaches returned
    have spread := (mem_spreads_definition proper (there.declared proper)
      (there.fine planned.reachable)).mpr ⟨inner, member, next, below, rfl⟩
    exact .step ih (List.mem_map_of_mem ((all object).mpr before)) spread

end Config.Planned

/-! ### A schema with a cycle -/

/-- Heroes and ships that refer to each other, and a type with a key that starts like another. -/
def fleet : Schema String where
  types := [
    { name := "Query", body := .object [{ name := "hero", type := .named ⟨.object, "Hero"⟩ }] [] },
    { name := "Hero",
      body := .object [{ name := "name", type := .nonNull (.named ⟨.scalar, "String"⟩) },
        { name := "ships", type := .list (.named ⟨.object, "Ship"⟩) }] [] },
    { name := "Ship",
      body := .object [{ name := "pilot", type := .named ⟨.object, "Hero"⟩ },
        { name := "heir", type := .named ⟨.object, "HeroV2"⟩ }] [] },
    { name := "HeroV2",
      body := .object [{ name := "name", type := .named ⟨.scalar, "String"⟩ }] [] },
    { name := "String", body := .scalar }]
  roots := ⟨"Query", none, none⟩

theorem fleet_proper : fleet.Proper := by
  intro type member object whole
  simp only [fleet, List.mem_cons, List.not_mem_nil, or_false] at member
  rcases member with rfl | rfl | rfl | rfl | rfl <;> cases whole
  all_goals exact ⟨by decide, by decide, by decide, by decide, by decide⟩

namespace Fleet

def pilots : Config where
  selections := [("Ship", ["pilot"])]

def heroField : Field String where
  name := "hero"
  type := .named ⟨.object, "Hero"⟩

def hero : ObjectType String where
  name := "Hero"
  fields := [{ name := "name", type := .nonNull (.named ⟨.scalar, "String"⟩) },
    { name := "ships", type := .list (.named ⟨.object, "Ship"⟩) }]

def ship : ObjectType String where
  name := "Ship"
  fields := [{ name := "pilot", type := .named ⟨.object, "Hero"⟩ },
    { name := "heir", type := .named ⟨.object, "HeroV2"⟩ }]

def query : Operation String where
  kind := .query
  type := { name := "Query", fields := [heroField] }

theorem returned_heroField : fleet.returned? heroField = some hero := rfl

/-- The type that only ships have a field of is planned for, but not needed. -/
theorem exists_plan_with (arguments : List (InputValue String)) :
    ∃ plan, pilots.planField fleet query { heroField with arguments } = .ok plan ∧
      plan.fragments.keys = ["HeroFragment", "ShipFragment"] ∧
      plan.table.keys = ["HeroFragment", "HeroV2Fragment", "ShipFragment"] := by
  let map : FieldMap String := [
    ("Hero", { name := "pilot", type := .named ⟨.object, "Hero"⟩ }),
    ("Ship", { name := "ships", type := .list (.named ⟨.object, "Ship"⟩) }),
    ("HeroV2", { name := "heir", type := .named ⟨.object, "HeroV2"⟩ })]
  let heroes := ("HeroFragment", Text.unlines ["fragment HeroFragment on Hero \x7b", "  name",
    "  ships \x7b", "    ...ShipFragment", "  \x7d", "\x7d"])
  let ships := ("ShipFragment", Text.unlines ["fragment ShipFragment on Ship \x7b",
    "  pilot \x7b", "    ...HeroFragment", "  \x7d", "\x7d"])
  let others := ("HeroV2Fragment",
    Text.unlines ["fragment HeroV2Fragment on HeroV2 \x7b", "  name", "\x7d"])
  have walked : fleet.reachable { heroField with arguments } = .ok map := by cbv
  have tabled : pilots.fragmentTable fleet map = .ok [heroes, others, ships] := by decide +kernel
  have closed : Fragment.closure [heroes, others, ships] ["HeroFragment"]
      = .ok [heroes, ships] := by cbv
  refine ⟨⟨query, { heroField with arguments }, map, [heroes, others, ships], [heroes, ships],
    ["HeroFragment"]⟩, ?_, rfl, rfl⟩
  have returned : fleet.returned? { heroField with arguments } = some hero := rfl
  exact (Config.planField_ok returned).mpr ⟨rfl, rfl, walked, tabled, rfl, closed⟩

theorem exists_plan : ∃ plan, pilots.planField fleet query heroField = .ok plan ∧
    plan.fragments.keys = ["HeroFragment", "ShipFragment"] ∧
    plan.table.keys = ["HeroFragment", "HeroV2Fragment", "ShipFragment"] :=
  exists_plan_with []

end Fleet

/-- The fragments of a planned document are those of the object types that are reached through
selected fields, each once and that of the returned type first. So every spread of the document has
one definition there, and every definition is needed by the root field. With no selections
configured the fragments are those of the table. -/
theorem Config.planField_closed_minimal (proper : schema.Proper)
    (returned : schema.returned? field = some root)
    (planned : config.planField schema operation field = .ok plan) :
    (∀ key, key ∈ plan.fragments.keys ↔ ∃ object, config.SelectReaches schema root object ∧
      Fragment.key (Name.shown object.name) = key) ∧
    plan.fragments.keys.Nodup ∧
    plan.fragments.keys.head? = some (Fragment.key (Name.shown root.name)) ∧
    (∃ body, plan.Reads body ∧ body.keys = plan.fragments.keys ∧
      (∀ key ∈ body.spreads, body.keys.count key = 1) ∧
      ∀ d ∈ body.definitions, body.Needs d.key) ∧
    (config.selections = [] → plan.fragments.Perm plan.table) := by
  have planned := (Config.planField_ok returned).mp planned
  obtain ⟨objects, fragments, all, distinct, first⟩ := planned.fragments_eq proper returned
  have keys : (config.body root objects).keys = plan.fragments.keys := by
    rw [fragments, Document.Body.keys, Config.body, Fragment.Table.keys, List.map_map, List.map_map]
    rfl
  refine ⟨?_, distinct, first, ⟨config.body root objects, ?_, keys, ?_, ?_⟩, ?_⟩
  · exact fun key => planned.mem_keys_fragments proper returned
  · exact planned.reads proper returned fragments all
  · intro key spread
    have defined := planned.spreads_subset proper returned all key spread
    rw [← keys] at distinct
    exact List.count_eq_one_of_mem distinct defined
  · intro d member
    obtain ⟨object, listed, rfl⟩ := List.mem_map.mp member
    exact planned.needs proper returned all ((all object).mp listed)
  · exact planned.fragments_perm proper returned

open Fleet in
theorem Config.planField_closed_minimal_of_cycle : fleet.Proper ∧
    fleet.returned? heroField = some hero ∧
    ∃ plan, pilots.planField fleet query heroField = .ok plan ∧
      plan.fragments.keys = ["HeroFragment", "ShipFragment"] ∧
      ∃ body, plan.Reads body ∧ body.keys = ["HeroFragment", "ShipFragment"] ∧
        (∀ key ∈ body.spreads, body.keys.count key = 1) ∧
        ∀ d ∈ body.definitions, body.Needs d.key := by
  obtain ⟨plan, planned, keys, -⟩ := exists_plan
  obtain ⟨-, -, -, ⟨body, reads, same, once, needed⟩, -⟩ :=
    Config.planField_closed_minimal fleet_proper returned_heroField planned
  exact ⟨fleet_proper, returned_heroField, plan, planned, keys, body, reads, same.trans keys, once,
    needed⟩

end GraphqlRequests
