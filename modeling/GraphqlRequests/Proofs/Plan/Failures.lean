import GraphqlRequests.Proofs.Filter.Kept
import GraphqlRequests.Proofs.Plan.Closed
import GraphqlRequests.Proofs.Plan.Outcome

/-!
# Failures of a whole run

With text names planning all fields never stops half-way. It gives a plan for each field, or lists
every flaw of the configured selections and after these every other failure of a field.
-/

namespace GraphqlRequests

variable {schema filtered : Schema String} {operation : Operation String} {field : Field String}

namespace Config

variable {config : Config}

/-- What is wrong with the configured selections, in their order: the type is no object type of the
schema, or names are requested that are no fields of it. -/
def selectionFlaws (config : Config) (schema : Schema String) : List PlanFailure :=
  config.selections.filterMap fun selection =>
    match schema.object? selection.1 with
    | none => some (.unknownType selection.1)
    | some object =>
      if config.unknownFields object = [] then none
      else some (.unknownFields ⟨selection.1, config.unknownFields object⟩)

theorem name_of_object? {name : String} {object : ObjectType String}
    (found : schema.object? name = some object) : object.name = name := by
  simpa using Schema.key_of_object? found

theorem selectionFailure?_eq {type : String} {object : ObjectType String}
    (found : schema.object? type = some object) :
    config.selectionFailure? schema type =
      if config.unknownFields object = [] then none
      else some (.unknownFields ⟨type, config.unknownFields object⟩) := by
  rw [selectionFailure?, Name.ofText_string, found]
  have usable : ∀ field ∈ object.fields, Name.isKey field.name = true := fun _ _ => rfl
  have selection : config.selection object = _ := selection_eq usable
  by_cases known : config.unknownFields object = []
  · rw [if_pos known] at selection ⊢
    simp only [selection]
  · rw [if_neg known] at selection ⊢
    simp only [selection, name_of_object? found, Name.shown_string]

theorem selectionFailures_eq (config : Config) (schema : Schema String) :
    config.selectionFailures schema = config.selectionFlaws schema := by
  refine List.filterMap_congr fun selection _ => ?_
  cases found : schema.object? selection.1 with
  | none => rw [selectionFailure?, Name.ofText_string, found]
  | some object => rw [selectionFailure?_eq found]

theorem mem_selectionFailures {object : ObjectType String} {e : PlanFailure}
    (found : schema.object? object.name = some object)
    (failed : config.selection object = .error e) : e ∈ config.selectionFailures schema := by
  have here : config.selectionFailure? schema object.name = some e := by
    rw [selectionFailure?, Name.ofText_string, found]
    simp only [failed]
  cases requested : config.selectionFor object.name with
  | none =>
    rw [selectionFailure?_eq found] at here
    simp [unknownFields, requested] at here
  | some names =>
    obtain ⟨before, after, split, -⟩ := List.lookup_eq_some_iff.mp requested
    refine List.mem_filterMap.mpr ⟨(object.name, names), ?_, here⟩
    rw [split]
    exact List.mem_append_right _ List.mem_cons_self

theorem not_isFinal_of_mem_selectionFailures {e : PlanFailure}
    (member : e ∈ config.selectionFailures schema) : e.isFinal = false := by
  rw [selectionFailures_eq] at member
  obtain ⟨selection, -, flaw⟩ := List.mem_filterMap.mp member
  split at flaw
  · cases flaw
    rfl
  · split at flaw
    · cases flaw
    · cases flaw
      rfl

/-! ### Single fields -/

theorem not_isFinal_of_planField_error {e : PlanFailure}
    (failed : config.planField schema operation field = .error e) : e.isFinal = false := by
  cases hinders_of_planField_error failed <;> rfl

/-- A field that the configuration is at fault for is reported with the configuration. -/
theorem mem_selectionFailures_of_isConfig {e : PlanFailure}
    (failed : config.planField schema operation field = .error e) (isConfig : e.isConfig = true) :
    e ∈ config.selectionFailures schema := by
  cases hinders_of_planField_error failed with
  | missing | abstract | refers => cases isConfig
  | unknown reached unknown =>
    refine mem_selectionFailures reached.found ?_
    rw [selection_eq fun _ _ => Name.isKey_string _, if_neg unknown, Name.shown_string]

/-! ### All fields -/

def outcomes (config : Config) (schema : Schema String) : List (Except PlanFailure (Plan String)) :=
  (operationFields schema).map fun (operation, field) => config.planField schema operation field

def failures (config : Config) (schema : Schema String) : List PlanFailure :=
  config.selectionFlaws schema ++ (config.outcomes schema).filterMap fieldFailure?

theorem mem_outcomes {outcome : Except PlanFailure (Plan String)}
    (member : outcome ∈ config.outcomes schema) :
    ∃ operation field, config.planField schema operation field = outcome := by
  obtain ⟨⟨operation, field⟩, -, here⟩ := List.mem_map.mp member
  exact ⟨operation, field, here⟩

theorem not_isFinal_of_mem_failures {e : PlanFailure} (member : e ∈ config.failures schema) :
    e.isFinal = false := by
  rcases List.mem_append.mp member with flaw | single
  · exact not_isFinal_of_mem_selectionFailures (selectionFailures_eq config schema ▸ flaw)
  obtain ⟨outcome, listed, reported⟩ := List.mem_filterMap.mp single
  obtain ⟨operation, field, failed⟩ := mem_outcomes listed
  cases outcome with
  | ok => cases reported
  | error other =>
    simp only [fieldFailure?] at reported
    split at reported
    · cases reported
    · rw [← Option.some.inj reported]
      exact not_isFinal_of_planField_error failed

theorem planAll_eq (config : Config) (schema : Schema String) :
    config.planAll schema =
      if config.failures schema = [] then .ok ((config.outcomes schema).filterMap Except.toOption)
      else .error (.failed (config.failures schema)) := by
  have running : (config.failures schema).find? (·.isFinal) = none :=
    List.find?_eq_none.mpr fun e member => by simp [not_isFinal_of_mem_failures member]
  rw [failures, ← selectionFailures_eq] at running ⊢
  rw [planAll]
  simp only [outcomes] at running ⊢
  simp only [running]
  congr

/-- Nothing is reported exactly where no selection is flawed and every field has its plan: a field
that the configuration is at fault for would have been reported with it. -/
theorem failures_eq_nil : config.failures schema = [] ↔
    config.selectionFlaws schema = [] ∧
    ∃ plans : List (Plan String), config.outcomes schema = plans.map .ok := by
  rw [failures, List.append_eq_nil_iff]
  refine and_congr_right fun clean => ?_
  constructor
  · intro silent
    have each : ∀ outcome ∈ config.outcomes schema, ∃ plan, True ∧ Except.ok plan = outcome := by
      intro outcome member
      cases outcome with
      | ok plan => exact ⟨plan, trivial, rfl⟩
      | error e =>
        obtain ⟨operation, field, failed⟩ := mem_outcomes member
        have reported := List.filterMap_eq_nil_iff.mp silent _ member
        have isConfig : e.isConfig = true := by simpa [fieldFailure?] using reported
        have listed := mem_selectionFailures_of_isConfig failed isConfig
        rw [selectionFailures_eq, clean] at listed
        cases listed
    obtain ⟨plans, same, -⟩ := exists_map_eq each
    exact ⟨plans, same.symm⟩
  · rintro ⟨plans, same⟩
    rw [same]
    refine List.filterMap_eq_nil_iff.mpr fun outcome member => ?_
    obtain ⟨plan, -, rfl⟩ := List.mem_map.mp member
    rfl

theorem planAll_ok {plans : List (Plan String)} : config.planAll schema = .ok plans ↔
    config.selectionFlaws schema = [] ∧ config.outcomes schema = plans.map .ok := by
  have chosen : ∀ plans : List (Plan String), (plans.map fun plan =>
      (Except.ok plan : Except PlanFailure (Plan String))).filterMap Except.toOption = plans := by
    intro plans
    rw [List.filterMap_map]
    exact List.filterMap_some
  rw [planAll_eq]
  split
  · next silent =>
    obtain ⟨clean, others, same⟩ := failures_eq_nil.mp silent
    rw [same, chosen]
    constructor
    · intro done
      rw [Except.ok.inj done]
      exact ⟨clean, rfl⟩
    · rintro ⟨-, also⟩
      rw [List.map_injective_iff.mpr (fun _ _ same => Except.ok.inj same) also]
  · next reported =>
    constructor
    · intro done
      cases done
    · rintro ⟨clean, same⟩
      exact absurd (failures_eq_nil.mpr ⟨clean, plans, same⟩) reported

section Planned

variable {plans : List (Plan String)} (planned : config.planAll schema = .ok plans)
include planned

theorem exists_field_of_planAll_ok {plan : Plan String} (member : plan ∈ plans) :
    ∃ operation field, (operation, field) ∈ operationFields schema ∧
      config.planField schema operation field = .ok plan := by
  have listed : Except.ok plan ∈ config.outcomes schema := by
    rw [(planAll_ok.mp planned).2]
    exact List.mem_map_of_mem member
  obtain ⟨⟨operation, field⟩, declared, here⟩ := List.mem_map.mp listed
  exact ⟨operation, field, declared, here⟩

theorem exists_selection_of_planAll_ok {object : ObjectType String}
    (found : schema.object? object.name = some object) :
    ∃ selection, config.selection object = .ok selection := by
  cases outcome : config.selection object with
  | ok selection => exact ⟨selection, rfl⟩
  | error e =>
    have listed := mem_selectionFailures found outcome
    rw [selectionFailures_eq, (planAll_ok.mp planned).1] at listed
    cases listed

end Planned

end Config

theorem Config.operationFields_eq (same : filtered.operations = schema.operations) :
    operationFields filtered = operationFields schema := by
  rw [operationFields, operationFields, same]

/-- Filters leave a schema with the same fields to plan. Plans come back exactly where the
configured selections have no flaws and every field has its plan, and then they are these plans, in
order. Otherwise all flaws are listed, and after them each failure of a field that the configuration
is not at fault for. A failure that it is at fault for is among the flaws. -/
theorem Config.planAll_exact (built : schema.Built) (config : Config) (filters : List TypeFilter) :
    ∃ filtered, TypeFilter.applyAll filters schema = .ok filtered ∧
      operationFields filtered = operationFields schema ∧
      config.selectionFailures filtered = config.selectionFlaws filtered ∧
      (∀ plans, config.planAll filtered = .ok plans ↔
        config.selectionFlaws filtered = [] ∧
        (operationFields filtered).map (fun (operation, field) =>
          config.planField filtered operation field) = plans.map .ok) ∧
      ((∀ plans, config.planAll filtered ≠ .ok plans) →
        config.planAll filtered = .error (.failed (config.selectionFlaws filtered
          ++ (operationFields filtered).filterMap fun (operation, field) =>
            fieldFailure? (config.planField filtered operation field)))) ∧
      ∀ operation field e, config.planField filtered operation field = .error e →
        e.isConfig = true → e ∈ config.selectionFlaws filtered := by
  obtain ⟨filtered, done⟩ := TypeFilter.exists_applyAll filters built
  refine ⟨filtered, done, operationFields_eq (TypeFilter.operations_applyAll built done),
    selectionFailures_eq config filtered, fun plans => planAll_ok, ?_, ?_⟩
  · intro failing
    have reported : config.failures filtered ≠ [] := by
      intro silent
      obtain ⟨clean, plans, same⟩ := failures_eq_nil.mp silent
      exact failing plans (planAll_ok.mpr ⟨clean, same⟩)
    rw [planAll_eq, if_neg reported, failures, outcomes, List.filterMap_map]
    rfl
  · intro operation field e failed isConfig
    rw [← selectionFailures_eq]
    exact mem_selectionFailures_of_isConfig failed isConfig

/-! ### A run with mistakes -/

theorem fleet_built : fleet.Built := by decide

namespace Fleet

def mistaken : Config where
  selections := [("Ship", ["pilot", "captain"]), ("Hero", []), ("Captain", ["name"])]

def withoutHeirs : TypeFilter where
  droppedPrefix := some "HeroV"

def heirless : Schema String where
  types := fleet.types.filter fun type => type.name ≠ "HeroV2"
  roots := fleet.roots

theorem applyAll_withoutHeirs : TypeFilter.applyAll [withoutHeirs] fleet = .ok heirless := by
  decide +kernel

theorem planField_heirless (config : Config) :
    config.planField heirless query heroField = .error (.reach (.missingType "HeroV2" "heir")) := by
  have walked : heirless.reachable heroField = .error (.missingType "HeroV2" "heir") := by cbv
  rw [Config.planField_eq, walked]
  rfl

end Fleet

open Fleet in
theorem Config.planAll_exact_of_mistakes : fleet.Built ∧
    TypeFilter.applyAll [withoutHeirs] fleet = .ok heirless ∧
    mistaken.planAll heirless = .error (.failed [.unknownFields ⟨"Ship", ["captain"]⟩,
      .unknownType "Captain", .reach (.missingType "HeroV2" "heir")]) := by
  obtain ⟨filtered, done, -, -, ok, failed, -⟩ :=
    Config.planAll_exact fleet_built mistaken [withoutHeirs]
  obtain rfl : heirless = filtered := Except.ok.inj (applyAll_withoutHeirs.symm.trans done)
  have flaws : mistaken.selectionFlaws heirless =
      [.unknownFields ⟨"Ship", ["captain"]⟩, .unknownType "Captain"] := by decide +kernel
  have fields : operationFields heirless = [(query, heroField)] := rfl
  refine ⟨fleet_built, done, (failed fun plans planned => ?_).trans ?_⟩
  · rw [flaws] at ok
    exact List.cons_ne_nil _ _ ((ok plans).mp planned).1
  · rw [flaws, fields]
    simp only [List.filterMap_cons, List.filterMap_nil, planField_heirless]
    rfl

end GraphqlRequests
