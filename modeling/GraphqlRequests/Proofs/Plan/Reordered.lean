import GraphqlRequests.Proofs.Plan.Failures

/-!
# Plans and the order of the types

Planning asks a schema for types by name, and for its roots. Where names differ a look-up finds the
same in any order of the types, so a server that lists its types in another order changes no plan.
-/

namespace GraphqlRequests

variable {ν : Type} [DecidableEq ν] [Name ν]

/-- Schemas with the same roots, in which every look-up finds the same. -/
structure Schema.Agree (first second : Schema ν) : Prop where
  roots : first.roots = second.roots
  types : ∀ name, first.type? name = second.type? name

namespace Schema

variable {first second : Schema ν}

theorem agree_of_perm (distinct : (first.types.map fun type => Name.key type.name).Nodup)
    (permuted : first.types.Perm second.types) (roots : first.roots = second.roots) :
    first.Agree second := by
  refine ⟨roots, fun name => Option.ext fun type => ?_⟩
  have distinct' : (second.types.map fun type => Name.key type.name).Nodup :=
    (permuted.map _).nodup_iff.mp distinct
  calc first.type? name = some type
      ↔ type ∈ first.types ∧ Name.key type.name = Name.key name := find?_eq_some distinct
    _ ↔ type ∈ second.types ∧ Name.key type.name = Name.key name := by rw [permuted.mem_iff]
    _ ↔ second.type? name = some type := (find?_eq_some distinct').symm

namespace Agree

variable (agree : first.Agree second)
include agree

theorem object? (name : ν) : first.object? name = second.object? name := by
  have found := agree.types name
  unfold type? at found
  unfold Schema.object? findObject?
  rw [found]

/-! ### Walks -/

theorem returned? (field : Field ν) : first.returned? field = second.returned? field :=
  agree.object? _

theorem returnType (field : Field ν) : first.returnType field = second.returnType field := by
  unfold Schema.returnType
  simp only [agree.types]

theorem visit : first.visit = second.visit := by
  funext found field
  unfold Schema.visit record
  rw [agree.returnType, agree.returned?]

theorem visits {seen after : List ν} {fields order : List (Field ν)}
    (visits : Visits first seen fields order after) : Visits second seen fields order after := by
  induction visits with
  | nil seen => exact .nil seen
  | leaf none _ ih => exact .leaf ((agree.returned? _).symm.trans none) ih
  | again returned old _ ih => exact .again ((agree.returned? _).symm.trans returned) old ih
  | first returned new _ _ inside beside =>
    exact .first ((agree.returned? _).symm.trans returned) new inside beside

theorem reachable (field : Field ν) : first.reachable field = second.reachable field := by
  obtain ⟨order, after, searched⟩ := Visits.total first [] [field]
  rw [reachable_eq searched, reachable_eq (agree.visits searched), agree.visit]

/-! ### Plans -/

variable (config : Config)

theorem fragmentTable (map : FieldMap ν) :
    config.fragmentTable first map = config.fragmentTable second map := by
  have each : config.fragment first = config.fragment second := by
    funext type
    unfold Config.fragment
    rw [agree.object?]
  unfold Config.fragmentTable
  rw [each]

theorem planField (operation : Operation ν) (field : Field ν) :
    config.planField first operation field = config.planField second operation field := by
  rw [Config.planField_eq, Config.planField_eq, agree.reachable, agree.returned?]
  simp only [agree.fragmentTable]

theorem operations : first.operations = second.operations := by
  have root : first.root? = second.root? := by
    funext kind
    cases kind <;> simp only [root?, agree.roots]
  have each : first.operation? = second.operation? := by
    funext kind
    unfold operation?
    simp only [root, agree.object?]
  unfold Schema.operations
  rw [each]

theorem selectionFailures : config.selectionFailures first = config.selectionFailures second := by
  have each : config.selectionFailure? first = config.selectionFailure? second := by
    funext type
    unfold Config.selectionFailure?
    rw [agree.object?]
  unfold Config.selectionFailures
  rw [each]

theorem planAll : config.planAll first = config.planAll second := by
  have fields : Config.operationFields first = Config.operationFields second := by
    unfold Config.operationFields
    rw [agree.operations]
  have each : (fun (entry : Operation ν × Field ν) => config.planField first entry.1 entry.2)
      = fun entry => config.planField second entry.1 entry.2 :=
    funext fun entry => agree.planField config entry.1 entry.2
  unfold Config.planAll
  rw [fields, agree.selectionFailures]
  simp only [each]

end Agree

end Schema

/-- The order in which a schema lists its types makes no difference to the plans, nor to the errors
where there are none. -/
theorem Config.planAll_perm {first second : Schema String}
    (distinct : (first.types.map (·.name)).Nodup) (permuted : first.types.Perm second.types)
    (roots : first.roots = second.roots) (config : Config) :
    (∃ plans, config.planAll first = .ok plans ∧ config.planAll second = .ok plans) ∨
    ∃ failures, config.planAll first = .error (.failed failures) ∧
      config.planAll second = .error (.failed failures) := by
  have agree : first.Agree second := Schema.agree_of_perm distinct permuted roots
  have same := agree.planAll config
  rw [planAll_eq config first] at same ⊢
  rw [← same]
  split
  · exact .inl ⟨_, rfl, rfl⟩
  · exact .inr ⟨_, rfl, rfl⟩

namespace Fleet

def reversed : Schema String where
  types := fleet.types.reverse
  roots := fleet.roots

theorem planAll_mistaken : mistaken.planAll fleet =
    .error (.failed [.unknownFields ⟨"Ship", ["captain"]⟩, .unknownType "Captain"]) := by
  let map : FieldMap String := [
    ("Hero", { name := "pilot", type := .named ⟨.object, "Hero"⟩ }),
    ("Ship", { name := "ships", type := .list (.named ⟨.object, "Ship"⟩) }),
    ("HeroV2", { name := "heir", type := .named ⟨.object, "HeroV2"⟩ })]
  have walked : fleet.reachable heroField = .ok map := by cbv
  have table : mistaken.fragmentTable fleet map
      = .error (.unknownFields ⟨"Ship", ["captain"]⟩) := by decide +kernel
  have field : mistaken.planField fleet query heroField
      = .error (.unknownFields ⟨"Ship", ["captain"]⟩) := by
    rw [Config.planField_eq, walked, returned_heroField]
    simp only [Except.mapError, bind, Except.bind, table]
  have flaws : mistaken.selectionFlaws fleet =
      [.unknownFields ⟨"Ship", ["captain"]⟩, .unknownType "Captain"] := by decide +kernel
  have outcomes : mistaken.outcomes fleet = [mistaken.planField fleet query heroField] := rfl
  have failures : mistaken.failures fleet =
      [.unknownFields ⟨"Ship", ["captain"]⟩, .unknownType "Captain"] := by
    rw [Config.failures, flaws, outcomes, field]
    rfl
  rw [Config.planAll_eq, failures]
  rfl

end Fleet

open Fleet in
theorem Config.planAll_perm_of_reversed : (fleet.types.map (·.name)).Nodup ∧
    fleet.types.Perm reversed.types ∧ fleet.roots = reversed.roots ∧
    (∃ plan, pilots.planAll fleet = .ok [plan] ∧ pilots.planAll reversed = .ok [plan] ∧
      plan.fragments.keys = ["HeroFragment", "ShipFragment"]) ∧
    mistaken.planAll reversed = .error (.failed [.unknownFields ⟨"Ship", ["captain"]⟩,
      .unknownType "Captain"]) := by
  have distinct : (fleet.types.map (·.name)).Nodup := by decide
  have permuted : fleet.types.Perm reversed.types := (List.reverse_perm _).symm
  refine ⟨distinct, permuted, rfl, ?_, ?_⟩
  · obtain ⟨plan, planned, keys, -⟩ := exists_plan
    have clean : pilots.selectionFlaws fleet = [] := by decide +kernel
    have whole : pilots.planAll fleet = .ok [plan] :=
      planAll_ok.mpr ⟨clean, congrArg (fun outcome => [outcome]) planned⟩
    refine ⟨plan, whole, ?_, keys⟩
    rcases Config.planAll_perm distinct permuted rfl pilots with ⟨_, here, there⟩ | ⟨_, here, _⟩
    · rw [there, ← here, whole]
    · cases here.symm.trans whole
  · rcases Config.planAll_perm distinct permuted rfl mistaken with ⟨_, here, _⟩ | ⟨_, here, there⟩
    · cases here.symm.trans planAll_mistaken
    · rw [there, ← here, planAll_mistaken]

end GraphqlRequests
