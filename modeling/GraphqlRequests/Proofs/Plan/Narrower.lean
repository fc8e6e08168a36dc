import GraphqlRequests.Proofs.Plan.Closed
import GraphqlRequests.Proofs.Plan.Outcome

/-!
# Narrower selections

In a proper schema selections of existing fields decide neither whether a field can be planned nor
what is walked through and tabled. The fewer fields are selected the fewer fragments are needed.
-/

namespace GraphqlRequests

variable {ν : Type} [DecidableEq ν] [Name ν]
variable {config first second : Config} {schema : Schema ν}
variable {operation : Operation ν} {field : Field ν} {root object : ObjectType ν}

namespace Config

/-- Only existing fields are requested of the object types of the schema. -/
def RequestsFields (config : Config) (schema : Schema ν) : Prop :=
  ∀ object, schema.object? object.name = some object →
    ∀ name ∈ (config.selectionFor (Name.text object.name)).getD [],
      Name.ofText name ∈ object.fieldNames

/-- Of each object type of the schema the first configuration selects nothing that the second one
does not select. -/
def SelectsWithin (first second : Config) (schema : Schema ν) : Prop :=
  ∀ object, schema.object? object.name = some object →
    ∀ few many, first.selection object = .ok few → second.selection object = .ok many →
      few.selected ⊆ many.selected

/-! ### What selections do not decide -/

theorem selection_of_requestsFields (proper : schema.Proper)
    (requests : config.RequestsFields schema) (found : schema.object? object.name = some object) :
    config.selection object = .ok ⟨object, (config.selectedFields object).map (·.name)⟩ := by
  have known : config.unknownFields object = [] := by
    rw [unknownFields, List.filter_eq_nil_iff]
    intro name requested
    simpa using requests object found name requested
  rw [selection_eq fun field member => (proper.object found).isKey member, if_pos known]

theorem exists_fragment (proper : schema.Proper) (requests : config.RequestsFields schema)
    {map : FieldMap ν} (walked : schema.reachable field = .ok map)
    (reached : schema.Reaches field object) :
    ∃ e, config.fragment schema (Name.shown object.name) = .ok e := by
  have declared := reached.declared proper
  obtain ⟨body, rendered⟩ := declared.exists_fragment config (reached.fine walked)
  rw [fragment, declared.named.ofText_shown, reached.found]
  simp only [selection_of_requestsFields proper requests reached.found, bind, Except.bind, rendered]
  exact ⟨_, rfl⟩

theorem planField_error_iff (proper : schema.Proper) (requests : config.RequestsFields schema)
    {e : PlanFailure} : config.planField schema operation field = .error e ↔
      ∃ cause, schema.reachable field = .error cause ∧ e = .reach cause := by
  constructor
  · intro failed
    have named : ∀ root, schema.returned? field = some root →
        Name.text root.name = Name.shown root.name :=
      fun root returned => (proper.object returned).named.text_eq_shown
    rcases planField_error named failed with walk | ⟨map, walked, table⟩
    · exact walk
    · obtain ⟨type, listed, failed⟩ := fragmentTable_error table
      obtain ⟨object, reached, rfl⟩ := (mem_sortedTypes proper walked type).mp listed
      obtain ⟨e, made⟩ := exists_fragment proper requests walked reached
      rw [made] at failed
      cases failed
  · rintro ⟨cause, walk, rfl⟩
    rw [planField_eq, walk]
    rfl

/-! ### What they decide -/

variable (proper : schema.Proper) (few : first.RequestsFields schema)
variable (many : second.RequestsFields schema) (within : first.SelectsWithin second schema)
include proper few many within

theorem selectedFields_subset (found : schema.object? object.name = some object) :
    first.selectedFields object ⊆ second.selectedFields object := by
  intro field selected
  have names := within object found _ _ (selection_of_requestsFields proper few found)
    (selection_of_requestsFields proper many found)
  obtain ⟨other, also, same⟩ := List.mem_map.mp (names (List.mem_map_of_mem selected))
  have distinct := (proper.object found).distinct
  rwa [List.inj_on_of_nodup_map distinct (mem_of_mem_selectedFields selected)
    (mem_of_mem_selectedFields also) same.symm]

theorem SelectReaches.mono (returned : schema.returned? field = some root)
    (reached : first.SelectReaches schema root object) :
    second.SelectReaches schema root object := by
  induction reached with
  | root => exact .root
  | step before member below ih =>
    have found := (before.reaches returned).found
    exact .step ih (selectedFields_subset proper few many within found member) below

/-- Which fields are selected does not matter to whether a field is planned, nor to how this fails.
Two plans walk through the same types, and their tables have the same keys. The fragments that are
needed for fewer fields are needed for more. -/
theorem planField_narrower (operation : Operation ν) (field : Field ν) :
    (∀ e, first.planField schema operation field = .error e ↔
      second.planField schema operation field = .error e) ∧
    ∀ plan wider, first.planField schema operation field = .ok plan →
      second.planField schema operation field = .ok wider →
      plan.reachable = wider.reachable ∧ plan.table.keys = wider.table.keys ∧
      plan.rootKeys = wider.rootKeys ∧ ∀ key ∈ plan.fragments.keys, key ∈ wider.fragments.keys := by
  constructor
  · intro e
    rw [planField_error_iff proper few, planField_error_iff proper many]
  intro plan wider narrowPlan widePlan
  cases returned : schema.returned? field with
  | none =>
    rw [planField_eq, returned] at narrowPlan widePlan
    obtain rfl : plan = wider := Except.ok.inj (narrowPlan.symm.trans widePlan)
    exact ⟨rfl, rfl, rfl, fun _ member => member⟩
  | some root =>
    have narrow := (planField_ok returned).mp narrowPlan
    have wide := (planField_ok returned).mp widePlan
    have walks : plan.reachable = wider.reachable :=
      Except.ok.inj (narrow.reachable.symm.trans wide.reachable)
    refine ⟨walks, ?_, narrow.rootKeys.trans wide.rootKeys.symm, ?_⟩
    · rw [(fragmentTable_ok narrow.table).2.1, (fragmentTable_ok wide.table).2.1, walks]
    · intro key member
      obtain ⟨object, reached, named⟩ := (narrow.mem_keys_fragments proper returned).mp member
      exact (wide.mem_keys_fragments proper returned).mpr
        ⟨object, reached.mono proper few many within returned, named⟩

end Config

/-! ### Heroes without heirs -/

section Unselected

variable (none : config.selections = [])
include none

theorem Config.requestsFields_of_none : config.RequestsFields schema := by
  intro object _ name requested
  simp [selectionFor, none] at requested

theorem Config.selectsWithin_of_none : first.SelectsWithin config schema := by
  intro object _ few many small large
  rw [selection_ok small, selection_ok large, selectedFields_eq none]
  exact List.map_subset _ fun _ => mem_of_mem_selectedFields

end Unselected

open Fleet in
theorem Fleet.pilots_requestsFields : pilots.RequestsFields fleet := by
  intro object found
  obtain ⟨type, here, whole⟩ := Schema.object?_eq_some.mp found
  have member := Schema.mem_of_type? here
  simp only [fleet, List.mem_cons, List.not_mem_nil, or_false] at member
  rcases member with rfl | rfl | rfl | rfl | rfl <;> cases whole <;> decide

open Fleet in
/-- With only the pilots of ships selected their heirs are walked through, but not needed. -/
theorem Config.planField_narrower_of_pilots : fleet.Proper ∧ pilots.RequestsFields fleet ∧
    Config.RequestsFields {} fleet ∧ pilots.SelectsWithin {} fleet ∧
    ∃ plan wider, pilots.planField fleet query heroField = .ok plan ∧
      Config.planField {} fleet query heroField = .ok wider ∧
      plan.fragments.keys = ["HeroFragment", "ShipFragment"] ∧
      (∀ key ∈ plan.fragments.keys, key ∈ wider.fragments.keys) ∧
      wider.fragments.keys.Perm ["HeroFragment", "HeroV2Fragment", "ShipFragment"] := by
  have few := pilots_requestsFields
  have many : Config.RequestsFields {} fleet := Config.requestsFields_of_none rfl
  have within : pilots.SelectsWithin {} fleet := Config.selectsWithin_of_none rfl
  obtain ⟨plan, planned, fragments, table⟩ := exists_plan
  obtain ⟨failing, narrower⟩ :=
    Config.planField_narrower fleet_proper few many within query heroField
  refine ⟨fleet_proper, few, many, within, ?_⟩
  cases outcome : Config.planField {} fleet query heroField with
  | error e =>
    rw [(failing e).mpr outcome] at planned
    cases planned
  | ok wider =>
    obtain ⟨-, tables, -, needed⟩ := narrower plan wider planned outcome
    refine ⟨plan, wider, planned, rfl, fragments, needed, ?_⟩
    rw [← table, tables]
    have wide := (Config.planField_ok returned_heroField).mp outcome
    exact (wide.fragments_perm fleet_proper returned_heroField rfl).map Prod.fst

end GraphqlRequests
