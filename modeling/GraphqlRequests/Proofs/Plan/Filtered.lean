import GraphqlRequests.Proofs.Plan.Failures
import GraphqlRequests.Proofs.Plan.Within

/-!
# Plans over filtered schemas

A field that can be planned after filtering has the plan that it had before. A field that no longer
can is stopped by the first dropped type that its walk comes to.
-/

namespace GraphqlRequests

variable {config : Config}

/-! ### A part of a schema -/

section Within

variable {part whole : Schema String} {operation : Operation String} {field : Field String}

variable (within : part.Within whole)
include within

/-- Until something offends in the part a field is planned there as in the whole. -/
theorem Schema.Within.planField_eq
    (fine : ∀ met, part.Meets field met → part.offends met = false) :
    config.planField whole operation field = config.planField part operation field :=
  within.planField_eq_of_named (fun _ _ => rfl) fine

theorem Schema.Within.missing_of_planField_error {plan : Plan String} {e : PlanFailure}
    (planned : config.planField whole operation field = .ok plan)
    (failed : config.planField part operation field = .error e) :
    ∃ met type, whole.Meets field met ∧ whole.type? met.type.innermost.name = some type ∧
      part.type? met.type.innermost.name = none ∧
      e = .reach (.missingType met.type.innermost.name met.name) := by
  -- Had the walk in the part succeeded, the field would be planned there as in the whole.
  have walk : ∃ cause, part.reachable field = .error cause := by
    cases walked : part.reachable field with
    | error cause => exact ⟨cause, rfl⟩
    | ok map =>
      obtain ⟨order, after, visits⟩ := Visits.total part [] [field]
      have same : config.planField whole operation field = config.planField part operation field :=
        within.planField_eq (reachable_ok visits walked).1
      rw [failed, planned] at same
      cases same
  obtain ⟨cause, walk⟩ := walk
  rw [Config.planField_eq, walk] at failed
  obtain ⟨order, after, visits⟩ := Visits.total part [] [field]
  obtain ⟨met, first, resolved⟩ := (reachable_error visits).mp walk
  have meets := within.meets (visits.mem_iff_meets.mp (List.mem_of_find?_eq_some first))
  have offends : part.offends met = true := by simpa using List.find?_some first
  obtain ⟨⟨type, found⟩, gone, missing⟩ :=
    within.missing (Config.fine_of_planField_ok planned met meets) offends
  refine ⟨met, type, meets, found, gone, ?_⟩
  rw [← Except.error.inj failed, Except.error.inj (resolved.symm.trans missing)]
  rfl

end Within

/-! ### A filtered schema -/

variable {schema filtered : Schema String} {filters : List TypeFilter}
variable {operation : Operation String} {field : Field String}

theorem TypeFilter.within_applyAll (built : schema.Built)
    (done : applyAll filters schema = .ok filtered) : filtered.Within schema :=
  fun _ _ found => ((type?_applyAll built done).mp found).1

theorem TypeFilter.drops_of_type?_eq_none (built : schema.Built)
    (done : applyAll filters schema = .ok filtered) {name : String} {type : NamedType String}
    (found : schema.type? name = some type) (gone : filtered.type? name = none) :
    Drops filters schema type := by
  by_contra kept
  rw [(type?_applyAll built done).mpr ⟨found, kept⟩] at gone
  cases gone

/-- Filters leave the fields to plan as they are. A field that is planned in the filtered schema has
the same plan in the whole one. A field that is planned in the whole schema only fails for a type
that was dropped, and it fails exactly where the field, or a field of an object type that it reaches
in the whole schema, returns a dropped type. -/
theorem Config.planField_filtered (built : schema.Built)
    (done : TypeFilter.applyAll filters schema = .ok filtered) :
    operationFields filtered = operationFields schema ∧
    (∀ plan, config.planField filtered operation field = .ok plan →
      config.planField schema operation field = .ok plan) ∧
    ∀ plan, config.planField schema operation field = .ok plan →
      (∀ e, config.planField filtered operation field = .error e →
        ∃ met type, schema.Meets field met ∧
          schema.type? met.type.innermost.name = some type ∧
          TypeFilter.Drops filters schema type ∧
          e = .reach (.missingType type.name met.name)) ∧
      ((∃ e, config.planField filtered operation field = .error e) ↔
        ∃ met type, schema.Meets field met ∧
          schema.type? met.type.innermost.name = some type ∧
          TypeFilter.Drops filters schema type) := by
  have within := TypeFilter.within_applyAll built done
  have same : ∀ plan, config.planField filtered operation field = .ok plan →
      (∀ met, schema.Meets field met ↔ filtered.Meets field met) ∧
      config.planField schema operation field = .ok plan := by
    intro plan planned
    have fine := fine_of_planField_ok planned
    exact ⟨fun met => within.meets_iff fine, (within.planField_eq fine).trans planned⟩
  have failing : ∀ plan, config.planField schema operation field = .ok plan →
      ∀ e, config.planField filtered operation field = .error e →
        ∃ met type, schema.Meets field met ∧
          schema.type? met.type.innermost.name = some type ∧
          TypeFilter.Drops filters schema type ∧
          e = .reach (.missingType type.name met.name) := by
    intro plan planned e failed
    obtain ⟨met, type, meets, found, gone, rfl⟩ :=
      within.missing_of_planField_error planned failed
    have named : type.name = met.type.innermost.name := Schema.key_of_type? found
    exact ⟨met, type, meets, found, TypeFilter.drops_of_type?_eq_none built done found gone,
      by rw [named]⟩
  refine ⟨operationFields_eq (TypeFilter.operations_applyAll built done),
    fun plan planned => (same plan planned).2, fun plan planned => ⟨failing plan planned, ?_⟩⟩
  constructor
  · rintro ⟨e, failed⟩
    obtain ⟨met, type, meets, found, dropped, -⟩ := failing plan planned e failed
    exact ⟨met, type, meets, found, dropped⟩
  · rintro ⟨met, type, meets, found, dropped⟩
    cases outcome : config.planField filtered operation field with
    | error e => exact ⟨e, rfl⟩
    | ok other =>
      -- Planned, the field would meet no field that offends, so the dropped type would be found.
      have fine := fine_of_planField_ok outcome met (((same other outcome).1 met).mp meets)
      obtain ⟨kept, resolved⟩ := Schema.offends_eq_false.mp fine
      obtain ⟨-, here, -⟩ := Schema.returnType_ok.mp resolved
      obtain ⟨there, undropped⟩ := (TypeFilter.type?_applyAll built done).mp here
      obtain rfl := Option.some.inj (found.symm.trans there)
      exact absurd dropped undropped

open Fleet in
theorem Config.planField_filtered_of_heirless : fleet.Built ∧
    TypeFilter.applyAll [withoutHeirs] fleet = .ok heirless ∧
    (∃ plan, pilots.planField fleet query heroField = .ok plan) ∧
    pilots.planField heirless query heroField = .error (.reach (.missingType "HeroV2" "heir")) ∧
    ∃ met type, fleet.Meets heroField met ∧ fleet.type? met.type.innermost.name = some type ∧
      TypeFilter.Drops [withoutHeirs] fleet type ∧
      PlanFailure.reach (.missingType "HeroV2" "heir")
        = .reach (.missingType type.name met.name) := by
  obtain ⟨plan, planned, -⟩ := exists_plan
  have failed := planField_heirless pilots
  obtain ⟨-, -, only⟩ := Config.planField_filtered fleet_built applyAll_withoutHeirs
  exact ⟨fleet_built, applyAll_withoutHeirs, ⟨plan, planned⟩, failed,
    (only plan planned).1 _ failed⟩

end GraphqlRequests
