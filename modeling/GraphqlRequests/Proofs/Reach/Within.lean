import GraphqlRequests.Proofs.Reach.Walk
import Mathlib.Data.List.Basic

/-!
# Walks in a part of a schema

Look-ups in a part of a schema find what the whole has, or nothing. Until the walk in the part meets
a field whose type is gone, it goes the way of the walk in the whole.
-/

namespace GraphqlRequests.Schema

variable {ν : Type} [DecidableEq ν] [Name ν]

/-- What a look-up finds in the part it finds in the whole. -/
def Within (part whole : Schema ν) : Prop :=
  ∀ name type, part.type? name = some type → whole.type? name = some type

namespace Within

variable {part whole : Schema ν} {start field met : Field ν}
variable (within : part.Within whole)
include within

theorem object?_eq_some {name : ν} {object : ObjectType ν}
    (found : part.object? name = some object) : whole.object? name = some object := by
  obtain ⟨type, here, object?⟩ := Schema.object?_eq_some.mp found
  exact Schema.object?_eq_some.mpr ⟨type, within name type here, object?⟩

theorem returnType_ok {type : NamedType ν} (resolved : part.returnType field = .ok type) :
    whole.returnType field = .ok type := by
  obtain ⟨usable, found, concrete⟩ := Schema.returnType_ok.mp resolved
  exact Schema.returnType_ok.mpr ⟨usable, within _ type found, concrete⟩

theorem offends_eq_false (fine : part.offends field = false) : whole.offends field = false := by
  obtain ⟨type, resolved⟩ := Schema.offends_eq_false.mp fine
  exact Schema.offends_eq_false.mpr ⟨type, within.returnType_ok resolved⟩

theorem returned?_eq (fine : part.offends field = false) :
    whole.returned? field = part.returned? field := by
  obtain ⟨type, resolved⟩ := Schema.offends_eq_false.mp fine
  rw [returned?_of_returnType resolved, returned?_of_returnType (within.returnType_ok resolved)]

theorem missing (fine : whole.offends field = false) (offends : part.offends field = true) :
    (∃ type, whole.type? field.type.innermost.name = some type) ∧
    part.type? field.type.innermost.name = none ∧
    part.returnType field = .error
      (.missingType (Name.shown field.type.innermost.name) (Name.shown field.name)) := by
  obtain ⟨type, resolved⟩ := Schema.offends_eq_false.mp fine
  obtain ⟨usable, found, concrete⟩ := Schema.returnType_ok.mp resolved
  have gone : part.type? field.type.innermost.name = none := by
    cases here : part.type? field.type.innermost.name with
    | none => rfl
    | some other =>
      obtain rfl := Option.some.inj (found.symm.trans (within _ other here))
      rw [Schema.offends_eq_false.mpr ⟨type, Schema.returnType_ok.mpr ⟨usable, here, concrete⟩⟩]
        at offends
      cases offends
  refine ⟨⟨type, found⟩, gone, ?_⟩
  rw [returnType, usable, gone]
  rfl

theorem reaches {object : ObjectType ν} (reached : part.Reaches start object) :
    whole.Reaches start object := by
  induction reached with
  | start returned => exact .start (within.object?_eq_some returned)
  | step _ member returned ih => exact .step ih member (within.object?_eq_some returned)

theorem meets (meets : part.Meets start met) : whole.Meets start met :=
  meets.imp_right fun ⟨object, reached, member⟩ => ⟨object, within.reaches reached, member⟩

/-- A search of the part in which nothing offends is a search of the whole. -/
theorem visits {seen after : List ν} {fields order : List (Field ν)}
    (visits : Visits part seen fields order after)
    (fine : ∀ met ∈ order, part.offends met = false) : Visits whole seen fields order after := by
  induction visits with
  | nil seen => exact .nil seen
  | leaf none _ ih =>
    obtain ⟨here, later⟩ := List.forall_mem_cons.mp fine
    exact .leaf ((within.returned?_eq here).trans none) (ih later)
  | again returned old _ ih =>
    obtain ⟨here, later⟩ := List.forall_mem_cons.mp fine
    exact .again ((within.returned?_eq here).trans returned) old (ih later)
  | first returned new _ _ inside beside =>
    obtain ⟨here, later⟩ := List.forall_mem_cons.mp fine
    obtain ⟨below, others⟩ := List.forall_mem_append.mp later
    exact .first ((within.returned?_eq here).trans returned) new (inside below) (beside others)

variable (fine : ∀ met, part.Meets start met → part.offends met = false)
include fine

theorem meets_iff : whole.Meets start met ↔ part.Meets start met := by
  obtain ⟨order, after, searched⟩ := Visits.total part [] [start]
  have whole := within.visits searched fun met member => fine met (searched.mem_iff_meets.mp member)
  rw [← whole.mem_iff_meets, ← searched.mem_iff_meets]

theorem reachable_eq : whole.reachable start = part.reachable start := by
  obtain ⟨order, after, searched⟩ := Visits.total part [] [start]
  have here : ∀ met ∈ order, part.offends met = false :=
    fun met member => fine met (searched.mem_iff_meets.mp member)
  have there : ∀ met ∈ order, whole.offends met = false :=
    fun met member => within.offends_eq_false (here met member)
  rw [Schema.reachable_eq searched, Schema.reachable_eq (within.visits searched here),
    foldlM_visit_ok here, foldlM_visit_ok there]
  congr 1
  refine List.foldl_ext _ _ _ fun found met member => ?_
  rw [record, record, within.returned?_eq (here met member)]

end Within

end GraphqlRequests.Schema
