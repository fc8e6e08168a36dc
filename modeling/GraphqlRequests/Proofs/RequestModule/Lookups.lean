import GraphqlRequests.Proofs.RequestModule.Closed

/-!
# Look-ups that cannot fail

To plan a field is to look up object types for their fragments, their fields for what is selected,
and fragments for the closure; the models of a module ask for the same selections again. What is
looked up there has been found before. Whatever hinders a field from being planned shows earlier, in
the walk, or in a selection of an object type that was found.
-/

namespace GraphqlRequests

variable {schema : Schema String}

namespace PlanFailure

/-- The failures that are foreseen where a field is planned: a return type that is missing or stands
for several, and fields that the configuration requests of a type without such fields. -/
inductive Foreseen : PlanFailure → Prop where
  | missing (type field : String) : Foreseen (.reach (.missingType type field))
  | abstract (field : AbstractField) : Foreseen (.reach (.abstractType field))
  | unknown (cause : UnknownFields) : Foreseen (.unknownFields cause)

theorem Foreseen.of_hinders {config : Config} {field : Field String} {e : PlanFailure}
    (hinders : config.Hinders schema field e) : e.Foreseen := by
  cases hinders with
  | missing => exact .missing _ _
  | abstract => exact .abstract _
  | unknown => exact .unknown _
  | refers => exact .abstract _

theorem Foreseen.found {e : PlanFailure} (foreseen : e.Foreseen) :
    (∀ key, e ≠ .missingFragment key) ∧ (∀ type, e ≠ .lostType type) ∧
      ∀ type field, e ≠ .lostField type field := by
  cases foreseen <;> simp

end PlanFailure

/-- A field is planned unless something hinders it. What is reported then is what hinders it, and
never a fragment, an object type or a field that was not found. Once all fields are planned, the
selections for models are made again without failure, and with them the module. -/
theorem Config.planned_or_hindered (distinct : (schema.types.map (·.name)).Nodup)
    (config : Config) :
    (∀ operation ∈ schema.operations, ∀ field ∈ operation.type.fields,
      ((∃ plan, config.planField schema operation field = .ok plan) ↔
        ∀ e, ¬config.Hinders schema field e) ∧
      ∀ e, config.planField schema operation field = .error e →
        config.Hinders schema field e ∧ e.Foreseen ∧
        (∀ key, e ≠ .missingFragment key) ∧ (∀ type, e ≠ .lostType type) ∧
        ∀ type name, e ≠ .lostField type name) ∧
    ∀ plans, config.planAll schema = .ok plans →
      (∀ object ∈ RequestModule.reachedObjects schema plans,
        ∃ selection, config.selection object = .ok selection) ∧
      ∃ module, RequestModule.build config schema plans = .ok module := by
  constructor
  · intro operation _ field _
    refine ⟨exists_planField_ok_iff, fun e failed => ?_⟩
    have hinders := hinders_of_planField_error failed
    have foreseen := PlanFailure.Foreseen.of_hinders hinders
    exact ⟨hinders, foreseen, foreseen.found⟩
  · intro plans planned
    have selections : ∀ object ∈ RequestModule.reachedObjects schema plans,
        ∃ selection, config.selection object = .ok selection := fun object listed =>
      RequestModule.exists_selection_of_mem_reachedObjects distinct planned listed
    exact ⟨selections, _, RequestModule.build_eq selections⟩

open Fleet in
theorem Config.planned_or_hindered_of_fleet : (fleet.types.map (·.name)).Nodup ∧
    (∀ plan, mistaken.planField fleet query heroField ≠ .ok plan) ∧
    (harbour.types.map (·.name)).Nodup ∧
    ∃ plan module, Config.planAll {} harbour = .ok [plan] ∧
      RequestModule.build {} harbour [plan] = .ok module := by
  have distinctFleet : (fleet.types.map (·.name)).Nodup := by decide
  have distinctHarbour : (harbour.types.map (·.name)).Nodup := by decide
  obtain ⟨each, -⟩ := Config.planned_or_hindered distinctFleet mistaken
  obtain ⟨-, all⟩ := Config.planned_or_hindered distinctHarbour {}
  have reached : fleet.Reaches heroField ship :=
    .step (.start returned_heroField) (List.mem_cons_of_mem _ List.mem_cons_self) rfl
  obtain ⟨plan, -, planned⟩ := Harbour.exists_plans
  obtain ⟨-, module, done⟩ := all _ planned
  refine ⟨distinctFleet, ?_, distinctHarbour, plan, module, planned, done⟩
  intro plan made
  have operations : fleet.operations = [query] := rfl
  have free := (each query (operations ▸ List.mem_cons_self) heroField List.mem_cons_self).1.mp
    ⟨plan, made⟩
  exact free _ (.unknown reached (by decide +kernel))

end GraphqlRequests
