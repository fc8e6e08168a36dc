import GraphqlRequests.Proofs.Plan.Outcome
import GraphqlRequests.Proofs.Reach.Within

/-!
# Plans over a part of a schema

A field is planned in a schema as in a part of it in which nothing offends. One such part holds the
object types that the field reaches and no others, so these others make no difference to the plan.
-/

namespace GraphqlRequests

variable {ν : Type} [DecidableEq ν] [Name ν]
variable {config : Config} {operation : Operation ν} {field : Field ν} {plan : Plan ν}

/-! ### Any part -/

section Within

variable {part whole : Schema ν}

variable (within : part.Within whole)
include within

theorem Schema.Within.fragment_eq {type : String} {object : ObjectType ν}
    (found : part.object? (Name.ofText type) = some object) :
    config.fragment whole type = config.fragment part type := by
  rw [Config.fragment, Config.fragment, found, within.object?_eq_some found]

theorem Schema.Within.planField_eq_of_named
    (named : ∀ object, part.Reaches field object →
      Name.ofText (Name.text object.name) = object.name)
    (fine : ∀ met, part.Meets field met → part.offends met = false) :
    config.planField whole operation field = config.planField part operation field := by
  obtain ⟨map, walked⟩ := exists_reachable fine
  have returned := within.returned?_eq (fine field (.inl rfl))
  have table : config.fragmentTable whole map = config.fragmentTable part map := by
    have steps : (Config.sortedTypes map).mapM (config.fragment whole)
        = (Config.sortedTypes map).mapM (config.fragment part) := by
      refine mapM_congr fun type listed => ?_
      obtain ⟨object, reached, rfl⟩ := (mem_sortedTypes_iff walked).mp listed
      have found := reached.found
      rw [← named object reached] at found
      exact within.fragment_eq found
    rw [Config.fragmentTable, Config.fragmentTable, steps]
  rw [Config.planField_eq, Config.planField_eq, within.reachable_eq fine, walked, returned]
  simp only [Except.mapError, bind, Except.bind, table]

end Within

/-! ### The part that a field reaches -/

namespace Schema

variable {schema : Schema ν}

open Classical in
/-- The schema without types that no look-up finds, and without object types that the field does not
reach. -/
noncomputable def reachedPart (schema : Schema ν) (field : Field ν) : Schema ν where
  types := schema.types.filter fun type => schema.type? type.name = some type ∧
    ∀ object, type.object? = some object → schema.Reaches field object
  roots := schema.roots

theorem mem_reachedPart {type : NamedType ν} : type ∈ (schema.reachedPart field).types ↔
    type ∈ schema.types ∧ schema.type? type.name = some type ∧
      ∀ object, type.object? = some object → schema.Reaches field object := by
  simp [reachedPart]

theorem within_reachedPart (schema : Schema ν) (field : Field ν) :
    (schema.reachedPart field).Within schema := by
  intro name type found
  obtain ⟨-, here, -⟩ := mem_reachedPart.mp (mem_of_type? found)
  rw [← here, type?, type?, find?, find?, key_of_type? found]

theorem type?_reachedPart {name : ν} {type : NamedType ν} (found : schema.type? name = some type)
    (reached : ∀ object, type.object? = some object → schema.Reaches field object) :
    (schema.reachedPart field).type? name = some type := by
  have kept : type ∈ (schema.reachedPart field).types :=
    mem_reachedPart.mpr ⟨mem_of_type? found, type?_name found, reached⟩
  cases first : (schema.reachedPart field).type? name with
  | none =>
    have differs := List.find?_eq_none.mp first type kept
    simp [key_of_type? found] at differs
  | some other =>
    rw [← found]
    exact (within_reachedPart schema field name other first).symm

theorem fine_reachedPart (fine : ∀ met, schema.Meets field met → schema.offends met = false)
    (met : Field ν) (meets : (schema.reachedPart field).Meets field met) :
    (schema.reachedPart field).offends met = false := by
  have here := (within_reachedPart schema field).meets meets
  obtain ⟨type, resolved⟩ := offends_eq_false.mp (fine met here)
  obtain ⟨usable, found, concrete⟩ := returnType_ok.mp resolved
  have kept : (schema.reachedPart field).type? met.type.innermost.name = some type := by
    refine type?_reachedPart found fun object whole => reaches_iff.mpr ⟨met, here, ?_⟩
    rw [returned?_of_returnType resolved, whole]
  exact offends_eq_false.mpr ⟨type, returnType_ok.mpr ⟨usable, kept, concrete⟩⟩

theorem proper_reachedPart
    (proper : ∀ object, schema.Reaches field object → object.Proper schema) :
    (schema.reachedPart field).Proper := by
  intro type member object whole
  obtain ⟨-, -, reached⟩ := mem_reachedPart.mp member
  have declared := proper object (reached object whole)
  exact { declared with
    kind := fun inner inside other found =>
      declared.kind inner inside other (within_reachedPart schema field _ _ found) }

end Schema

variable {schema : Schema ν}

/-- Where the object types that a field reaches are proper, it is planned in the part that it
reaches as in the whole. -/
theorem Config.planField_reachedPart
    (proper : ∀ object, schema.Reaches field object → object.Proper schema)
    (planned : config.planField schema operation field = .ok plan) :
    config.planField (schema.reachedPart field) operation field = .ok plan := by
  have within := Schema.within_reachedPart schema field
  have fine := Schema.fine_reachedPart (fine_of_planField_ok planned)
  rw [← within.planField_eq_of_named (fun object reached => ?_) fine, planned]
  have written := (proper object (within.reaches reached)).named
  rw [written.text_eq_shown, written.ofText_shown]

end GraphqlRequests
