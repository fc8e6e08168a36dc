import GraphqlRequests.Proofs.RequestModule.Closed

/-!
# Names of the classes of a module

The classes for types have the names of these types, which differ. A request class is named for its
field and for the kind of the operation. Two have one name where fields of one root differ in how
their words are told apart only, and then the module defines one class in place of the other.
-/

namespace GraphqlRequests

open Naming (pascalCase)

variable {config : Config} {schema : Schema String} {plans : List (Plan String)}

/-! ### Request classes -/

def OperationKind.className (kind : OperationKind) (field : String) : String :=
  pascalCase field ++ pascalCase kind.keyword ++ "Request"

/-- The last letters of the keywords tell the kinds apart. -/
theorem OperationKind.eq_of_append {kind other : OperationKind} {front before : List Char}
    (same : front ++ (pascalCase kind.keyword).toList
      = before ++ (pascalCase other.keyword).toList) : kind = other := by
  have long : ∀ kind : OperationKind, 5 ≤ (pascalCase kind.keyword).toList.reverse.length := by
    intro kind
    cases kind <;> decide
  have last : (pascalCase kind.keyword).toList.reverse.take 5
      = (pascalCase other.keyword).toList.reverse.take 5 := by
    have backwards := congrArg (fun chars => chars.reverse.take 5) same
    simpa only [List.reverse_append, List.take_append_of_le_length (long _)] using backwards
  cases kind <;> cases other <;> first | rfl | exact absurd last (by decide)

theorem OperationKind.className_inj {kind other : OperationKind} {field name : String} :
    kind.className field = other.className name ↔
      kind = other ∧ pascalCase field = pascalCase name := by
  constructor
  · intro same
    have operation : pascalCase field ++ pascalCase kind.keyword
        = pascalCase name ++ pascalCase other.keyword := (String.append_left_inj _).mp same
    have chars := congrArg String.toList operation
    rw [String.toList_append, String.toList_append] at chars
    obtain rfl := eq_of_append chars
    exact ⟨rfl, (String.append_left_inj _).mp operation⟩
  · rintro ⟨rfl, same⟩
    rw [className, className, same]

theorem Schema.kind_of_operation? {kind : OperationKind} {operation : Operation String}
    (found : schema.operation? kind = some operation) : operation.kind = kind := by
  obtain ⟨name, -, made⟩ := Option.bind_eq_some_iff.mp found
  obtain ⟨object, -, rfl⟩ := Option.map_eq_some_iff.mp made
  rfl

theorem Schema.operations_pairwise (schema : Schema String) :
    schema.operations.Pairwise fun operation other => operation.kind ≠ other.kind := by
  have kinds : [OperationKind.query, .mutation, .subscription].Pairwise (· ≠ ·) := by decide
  refine List.Pairwise.filterMap _ (fun kind other differ operation found next also => ?_) kinds
  rw [kind_of_operation? found, kind_of_operation? also]
  exact differ

theorem Config.operation_of_planField_ok {operation : Operation String} {field : Field String}
    {plan : Plan String} (planned : config.planField schema operation field = .ok plan) :
    plan.operation = operation ∧ plan.field = field := by
  cases returned : schema.returned? field with
  | some root =>
    have parts := (planField_ok returned).mp planned
    exact ⟨parts.operation_eq, parts.field_eq⟩
  | none =>
    rw [planField_eq, returned] at planned
    obtain ⟨map, -, planned⟩ := bind_ok planned
    obtain rfl := Except.ok.inj planned
    exact ⟨rfl, rfl⟩

theorem Config.map_className (planned : config.planAll schema = .ok plans) :
    plans.map Plan.className = schema.operations.flatMap fun operation =>
      operation.type.fields.map fun field => operation.kind.className field.name := by
  have pairs : List.Forall₂ (· = ·) (config.outcomes schema) (plans.map .ok) := by
    rw [(planAll_ok.mp planned).2, List.forall₂_eq_eq_eq]
  rw [outcomes, List.forall₂_map_left_iff, List.forall₂_map_right_iff] at pairs
  have named : List.Forall₂ (· = ·) ((operationFields schema).map fun pair =>
      pair.1.kind.className pair.2.name) (plans.map Plan.className) := by
    rw [List.forall₂_map_left_iff, List.forall₂_map_right_iff]
    refine pairs.imp fun pair plan here => ?_
    obtain ⟨operation, field⟩ := pair
    obtain ⟨rfl, rfl⟩ := operation_of_planField_ok here
    rfl
  rw [List.forall₂_eq_eq_eq] at named
  rw [← named, operationFields, List.map_flatMap]
  simp only [List.map_map, Function.comp_def]

/-- Request classes differ in name exactly where the fields of each root do, words capitalized. -/
theorem Config.nodup_className_iff (planned : config.planAll schema = .ok plans) :
    (plans.map Plan.className).Nodup ↔ ∀ operation ∈ schema.operations,
      (operation.type.fields.map fun field => pascalCase field.name).Nodup := by
  have apart : schema.operations.Pairwise (Function.onFun List.Disjoint fun operation =>
      operation.type.fields.map fun field => operation.kind.className field.name) := by
    refine schema.operations_pairwise.imp fun {operation other} differ name here there => ?_
    obtain ⟨field, -, rfl⟩ := List.mem_map.mp here
    obtain ⟨next, -, same⟩ := List.mem_map.mp there
    exact differ (OperationKind.className_inj.mp same).1.symm
  rw [map_className planned, List.nodup_flatMap]
  refine (and_iff_left apart).trans (forall₂_congr fun operation _ => ?_)
  have named : (operation.type.fields.map fun field => operation.kind.className field.name)
      = (operation.type.fields.map fun field => pascalCase field.name).map
        fun words => words ++ pascalCase operation.kind.keyword ++ "Request" := by
    rw [List.map_map]
    rfl
  rw [named, List.nodup_map_iff]
  intro first second same
  exact (String.append_left_inj _).mp ((String.append_left_inj _).mp same)

/-! ### Classes for types -/

namespace Schema

theorem map_name_objects (schema : Schema String) :
    schema.objects.map (·.name) = (schema.ofKind .object).map (·.name) :=
  map_objects fun _ _ whole => (NamedType.object?_eq_some.mp whole).1.symm

namespace Built

variable (built : schema.Built)
include built

theorem nodup_map_name (kind : TypeKind) : ((schema.ofKind kind).map (·.name)).Nodup :=
  built.distinct.sublist (List.filter_sublist.map _)

theorem disjoint_map_name {kind other : TypeKind} (differ : kind ≠ other) :
    List.Disjoint ((schema.ofKind kind).map (·.name)) ((schema.ofKind other).map (·.name)) := by
  intro name here there
  obtain ⟨type, listed, rfl⟩ := List.mem_map.mp here
  obtain ⟨next, also, same⟩ := List.mem_map.mp there
  obtain ⟨member, kind, -⟩ := mem_ofKind.mp listed
  obtain ⟨inside, next, -⟩ := mem_ofKind.mp also
  obtain rfl := List.inj_on_of_nodup_map built.distinct inside member same
  exact differ (kind.symm.trans next)

end Built

end Schema

namespace RequestModule

/-- The names of the classes for enums, input objects and object types. -/
def typeNames (module : RequestModule) : List String :=
  module.enums.map (·.name) ++ module.inputs.map (·.name) ++ module.models.map (·.name)

def classNames (module : RequestModule) : List String :=
  module.typeNames ++ module.requests.map (·.name)

theorem sublist_reachedObjects (schema : Schema String) (plans : List (Plan String)) :
    List.Sublist ((reachedObjects schema plans).map (·.name))
      ((schema.ofKind .object).map (·.name)) := by
  rw [← Schema.map_name_objects]
  exact List.filter_sublist.map _

theorem typeNames_ofPlans : (ofPlans config schema plans).typeNames
    = (schema.ofKind .enum).map (·.name) ++ (schema.ofKind .inputObject).map (·.name)
      ++ (reachedObjects schema plans).map (·.name) := by
  simp only [typeNames, ofPlans, List.map_map]
  rfl

theorem nodup_typeNames (built : schema.Built) :
    (ofPlans config schema plans).typeNames.Nodup := by
  have reached := sublist_reachedObjects schema plans
  have models := (built.nodup_map_name .object).sublist reached
  have apart : ∀ {kind : TypeKind}, kind ≠ .object → List.Disjoint
      ((schema.ofKind kind).map (·.name)) ((reachedObjects schema plans).map (·.name)) :=
    fun differ => List.disjoint_of_subset_right reached.subset (built.disjoint_map_name differ)
  rw [typeNames_ofPlans]
  refine ((built.nodup_map_name _).append (built.nodup_map_name _) ?_).append models ?_
  · exact built.disjoint_map_name (by decide)
  · exact List.disjoint_append_left.mpr ⟨apart (by decide), apart (by decide)⟩

theorem typeNames_subset : (ofPlans config schema plans).typeNames ⊆ schema.types.map (·.name) := by
  have kinds : ∀ kind, (schema.ofKind kind).map (·.name) ⊆ schema.types.map (·.name) :=
    fun kind => (List.filter_sublist.map _).subset
  have models := List.Subset.trans (sublist_reachedObjects schema plans).subset (kinds .object)
  rw [typeNames_ofPlans]
  exact List.append_subset.mpr ⟨List.append_subset.mpr ⟨kinds _, kinds _⟩, models⟩

/-- A schema whose fields can all be planned has a module. It defines as many classes as it has,
each under a name of its own, exactly where the fields of each root differ in name with their words
capitalized, and no class for a type is called as a request class is. -/
theorem classNames_nodup_iff (built : schema.Built) (planned : config.planAll schema = .ok plans) :
    ∃ module, build config schema plans = .ok module ∧
      module.typeNames.Nodup ∧ module.typeNames ⊆ schema.types.map (·.name) ∧
      module.requests.map (·.name) = plans.map Plan.className ∧
      (module.classNames.Nodup ↔
        (∀ operation ∈ schema.operations,
          (operation.type.fields.map fun field => pascalCase field.name).Nodup) ∧
        ∀ plan ∈ plans, plan.className ∉ module.typeNames) := by
  have requests : (ofPlans config schema plans).requests.map (·.name)
      = plans.map Plan.className := by
    rw [ofPlans, List.map_map]
    rfl
  refine ⟨ofPlans config schema plans, build_of_planAll_ok built planned, nodup_typeNames built,
    typeNames_subset, requests, ?_⟩
  rw [classNames, requests, List.nodup_append', and_iff_right (nodup_typeNames built),
    Config.nodup_className_iff planned, List.disjoint_right, List.forall_mem_map]

end RequestModule

open Harbour in
theorem RequestModule.classNames_nodup_iff_of_harbour : harbour.Built ∧
    ∃ plan module, Config.planAll {} harbour = .ok [plan] ∧
      RequestModule.build {} harbour [plan] = .ok module ∧
      module.requests.map (·.name) = ["ShipsQueryRequest"] ∧ module.classNames.Nodup := by
  obtain ⟨plan, own, planned⟩ := exists_plans
  obtain ⟨module, done, -, types, requests, distinct⟩ :=
    RequestModule.classNames_nodup_iff harbour_built planned
  have named : [plan.className] = ["ShipsQueryRequest"] :=
    (Config.map_className planned).trans (by decide)
  refine ⟨harbour_built, plan, module, planned, done, requests.trans named, distinct.mpr ⟨?_, ?_⟩⟩
  · decide
  · intro other member
    rw [List.mem_singleton.mp member, List.singleton_inj.mp named]
    exact fun listed => absurd (types listed) (by decide)

def twins : Schema String where
  types := [
    { name := "Query",
      body := .object [{ name := "foo_bar", type := .named ⟨.scalar, "Int"⟩ },
        { name := "fooBar", type := .named ⟨.scalar, "Int"⟩ }] [] },
    { name := "Int", body := .scalar }]
  roots := ⟨"Query", none, none⟩

/-- Both fields of the root are planned, and their request classes have one name. -/
theorem Config.planAll_className_of_twins : twins.Built ∧ twins.Proper ∧
    ∃ plans, Config.planAll {} twins = .ok plans ∧
      plans.map (fun plan => (plan.field.name, plan.className))
        = [("foo_bar", "FooBarQueryRequest"), ("fooBar", "FooBarQueryRequest")] := by
  have proper : twins.Proper := by
    intro type member object whole
    simp only [twins, List.mem_cons, List.not_mem_nil, or_false] at member
    rcases member with rfl | rfl <;> cases whole
    exact ⟨by decide, by decide, by decide, by decide, by decide⟩
  let underscored : Field String := { name := "foo_bar", type := .named ⟨.scalar, "Int"⟩ }
  let capitalized : Field String := { name := "fooBar", type := .named ⟨.scalar, "Int"⟩ }
  let query : Operation String :=
    ⟨.query, { name := "Query", fields := [underscored, capitalized] }⟩
  refine ⟨by decide, proper, [⟨query, underscored, [], [], [], []⟩,
    ⟨query, capitalized, [], [], [], []⟩], Config.planAll_ok.mpr ⟨rfl, rfl⟩, ?_⟩
  decide

end GraphqlRequests
