import GraphqlRequests.Proofs.Plan.Filtered
import GraphqlRequests.Proofs.RequestModule.Names

/-!
# References to dropped types

Planning a filtered schema goes wrong where a field that is met returns a dropped type, and for no
other reference to one. Arguments and input fields keep such references, so the module annotates
attributes with classes that it does not have.
-/

namespace GraphqlRequests

variable {config : Config} {schema filtered : Schema String} {filters : List TypeFilter}
variable {operation : Operation String} {field : Field String} {plans : List (Plan String)}

/-- The schema has the type that the reference ends in. -/
def Schema.Holds (schema : Schema String) (ref : NamedRef String) : Prop :=
  ∃ type, schema.type? ref.name = some type

theorem Schema.Linked.holds (linked : schema.Linked) :
    ∀ type ∈ schema.types, ∀ ref ∈ type.references, schema.Holds ref := by
  intro type member ref mentioned
  obtain ⟨target, found, -⟩ := Option.map_eq_some_iff.mp (linked.resolves type member ref mentioned)
  exact ⟨target, found⟩

/-! ### What is planned -/

namespace Config

theorem outcomes_eq : config.outcomes schema = plans.map .ok ↔
    List.Forall₂ (fun plan pair => config.planField schema pair.1 pair.2 = .ok plan) plans
      (operationFields schema) := by
  rw [outcomes, ← List.forall₂_eq_eq_eq, List.forall₂_map_left_iff, List.forall₂_map_right_iff]
  exact ⟨.flip, .flip⟩

section Filtered

variable (built : schema.Built) (applied : TypeFilter.applyAll filters schema = .ok filtered)
include built applied

/-- A field is planned in a filtered schema exactly where it is in the whole one, with the same plan,
and all that it meets there returns types that are left. -/
theorem planField_applyAll {plan : Plan String} :
    config.planField filtered operation field = .ok plan ↔
      config.planField schema operation field = .ok plan ∧
      ∀ met, schema.Meets field met → filtered.Holds met.type.innermost := by
  have within := TypeFilter.within_applyAll built applied
  constructor
  · intro planned
    have fine := fine_of_planField_ok planned
    refine ⟨(within.planField_eq fine).trans planned, fun met meets => ?_⟩
    obtain ⟨type, resolved⟩ := Schema.offends_eq_false.mp
      (fine met ((within.meets_iff fine).mp meets))
    exact ⟨type, (Schema.returnType_ok.mp resolved).2.1⟩
  · rintro ⟨planned, held⟩
    rw [← within.planField_eq fun met meets => ?_, planned]
    have there := within.meets meets
    obtain ⟨type, resolved⟩ := Schema.offends_eq_false.mp (fine_of_planField_ok planned met there)
    obtain ⟨usable, found, concrete⟩ := Schema.returnType_ok.mp resolved
    obtain ⟨kept, here⟩ := held met there
    obtain rfl := Option.some.inj ((within _ _ here).symm.trans found)
    exact Schema.offends_eq_false.mpr ⟨kept, Schema.returnType_ok.mpr ⟨usable, here, concrete⟩⟩

theorem outcomes_applyAll : config.outcomes filtered = plans.map .ok ↔
    config.outcomes schema = plans.map .ok ∧
      ∀ plan ∈ plans, ∀ met, schema.Meets plan.field met → filtered.Holds met.type.innermost := by
  rw [outcomes_eq, outcomes_eq, operationFields_eq (TypeFilter.operations_applyAll built applied),
    and_comm, ← List.forall₂_and_left]
  have same : ∀ plan (pair : Operation String × Field String),
      config.planField filtered pair.1 pair.2 = .ok plan ↔
        (∀ met, schema.Meets plan.field met → filtered.Holds met.type.innermost) ∧
        config.planField schema pair.1 pair.2 = .ok plan := by
    intro plan pair
    rw [planField_applyAll built applied, and_comm]
    refine and_congr_left fun planned => ?_
    rw [(operation_of_planField_ok planned).2]
  simp only [same]

end Filtered

end Config

/-! ### What is left out -/

section Filtered

variable (built : schema.Built) (applied : TypeFilter.applyAll filters schema = .ok filtered)
include built applied

theorem Schema.shows_of_applyAll {type : NamedType String} (shown : filtered.Shows type) :
    schema.Shows type := by
  obtain ⟨member, visible⟩ := shown
  refine ⟨((TypeFilter.mem_types_applyAll built applied).mp member).1, ?_⟩
  rwa [rootNames, TypeFilter.roots_applyAll built applied] at visible

theorem Schema.not_holds_iff {ref : NamedRef String} (resolves : schema.Holds ref) :
    ¬filtered.Holds ref ↔
      ∃ type, schema.type? ref.name = some type ∧ TypeFilter.Drops filters schema type := by
  obtain ⟨type, found⟩ := resolves
  simp only [Holds, TypeFilter.type?_applyAll built applied, found, Option.some.injEq,
    exists_eq_left', not_not]

end Filtered

namespace RequestModule

/-- The annotation for a value is the class or the mapping for its type. The module has that class,
or its imports take that scalar into account, exactly where the type is left. -/
def Refers (module : RequestModule) (registry : ScalarRegistry) (schema : Schema String)
    (value : InputValue String) (code : CodeRef String) : Prop :=
  let ref := value.type.innermost
  match ref.kind with
  | .scalar => code.innermost = (registry.mapping ref.name).typeText ∧
    (ref.name ∈ scalarNames schema ↔ schema.Holds ref)
  | _ => code.innermost = ref.name ∧ (code.innermost ∈ module.typeNames ↔ schema.Holds ref)

section Filtered

variable (built : schema.Built) (linked : schema.Linked)
variable (applied : TypeFilter.applyAll filters schema = .ok filtered)
include built linked applied

theorem mem_ofKind_iff_holds {type : NamedType String} (shown : filtered.Shows type)
    {ref : NamedRef String} (mentioned : ref ∈ type.references) :
    ref.name ∈ (filtered.ofKind ref.kind).map (·.name) ↔ filtered.Holds ref := by
  have whole := Schema.shows_of_applyAll built applied shown
  constructor
  · intro listed
    obtain ⟨target, member, named⟩ := List.mem_map.mp listed
    exact ⟨target, (TypeFilter.applyAll_ok built applied).2.type?_eq_some.mpr
      ⟨(Schema.mem_ofKind.mp member).1, named⟩⟩
  · rintro ⟨target, here⟩
    obtain ⟨also, listed, found, named⟩ := linked.exists_target whole mentioned
    have there := ((TypeFilter.type?_applyAll built applied).mp here).1
    obtain rfl := Option.some.inj (found.symm.trans there)
    obtain ⟨-, kind, visible⟩ := Schema.mem_ofKind.mp listed
    exact List.mem_map.mpr ⟨also, Schema.mem_ofKind.mpr ⟨Schema.mem_of_type? here, kind, visible⟩,
      named⟩

theorem refers_of_input {type : NamedType String} (shown : filtered.Shows type)
    {value : InputValue String} (own : value ∈ type.inputs) :
    (ofPlans config filtered plans).Refers config.registry filtered value
      (ofInput config.registry value).type := by
  have mentioned := NamedType.mem_references_of_input own
  have whole := Schema.shows_of_applyAll built applied shown
  have input := linked.input type whole.1 value own
  have held := mem_ofKind_iff_holds built linked applied shown mentioned
  have known : value.type.innermost.name ∈ (ofPlans config filtered plans).typeNames →
      filtered.Holds value.type.innermost := by
    intro listed
    obtain ⟨target, member, named⟩ := List.mem_map.mp (typeNames_subset listed)
    exact ⟨target, (TypeFilter.applyAll_ok built applied).2.type?_eq_some.mpr ⟨member, named⟩⟩
  simp only [Refers, ofInput, innermost_typeFor, atom]
  -- An enum or an input type refers to a class of the module, a scalar to what is imported.
  cases kind : value.type.innermost.kind with
  | scalar =>
    rw [kind] at held
    exact ⟨rfl, held⟩
  | enum =>
    rw [kind] at held
    refine ⟨rfl, known, fun holds => ?_⟩
    rw [typeNames_ofPlans, List.append_assoc]
    exact List.mem_append_left _ (held.mpr holds)
  | inputObject =>
    rw [kind] at held
    refine ⟨rfl, known, fun holds => ?_⟩
    rw [typeNames_ofPlans]
    exact List.mem_append_left _ (List.mem_append_right _ (held.mpr holds))
  | object | interface | union =>
    rw [kind] at input
    cases input

end Filtered

/-- A filtered schema is planned exactly where the whole one is, with the same plans, and all fields
that are met return types that are left. No other reference to a dropped type is noticed. So the
module annotates arguments and input fields as if nothing had been dropped: it lacks the classes, or
the imports, for those that refer to what was. -/
theorem build_filtered (config : Config) (built : schema.Built)
    (resolves : ∀ type ∈ schema.types, ∀ ref ∈ type.references, schema.Holds ref)
    (applied : TypeFilter.applyAll filters schema = .ok filtered) :
    (∀ plans, config.planAll filtered = .ok plans ↔
      config.selectionFlaws filtered = [] ∧
      (Config.operationFields schema).map (fun (operation, field) =>
        config.planField schema operation field) = plans.map .ok ∧
      ∀ plan ∈ plans, ∀ met, schema.Meets plan.field met →
        filtered.Holds met.type.innermost) ∧
    (∀ type ∈ filtered.types, ∀ ref ∈ type.references, ¬filtered.Holds ref ↔
      ∃ target, schema.type? ref.name = some target ∧ TypeFilter.Drops filters schema target) ∧
    (schema.Linked → ∀ plans, config.planAll filtered = .ok plans →
      ∃ module, build config filtered plans = .ok module ∧
        List.Forall₂ (fun type input => input.name = type.name ∧
            List.Forall₂ (fun value made => module.Refers config.registry filtered value made.type)
              type.inputFields input.attributes)
          (filtered.ofKind .inputObject) module.inputs ∧
        List.Forall₂ (fun plan request => request.name = plan.className ∧
            List.Forall₂ (fun value made => module.Refers config.registry filtered value made.type)
              plan.field.arguments request.attributes)
          plans module.requests) := by
  refine ⟨fun plans => ?_, fun type member ref mentioned => ?_, fun linked plans planned => ?_⟩
  · rw [Config.planAll_ok, Config.outcomes_applyAll built applied]
    rfl
  · have declared := ((TypeFilter.mem_types_applyAll built applied).mp member).1
    exact Schema.not_holds_iff built applied (resolves type declared ref mentioned)
  · let module := ofPlans config filtered plans
    have whole := (TypeFilter.applyAll_ok built applied).2
    refine ⟨module, build_of_planAll_ok whole planned, ?_, ?_⟩
    · refine List.forall₂_map_right_iff.mpr (List.forall₂_same.mpr fun type listed => ⟨rfl, ?_⟩)
      have shown := Schema.shows_of_mem_ofKind listed
      refine forall₂_type_distinctAttributes (module.Refers config.registry filtered) _
        fun value own => ?_
      exact refers_of_input built linked applied shown (List.mem_append_right _ own)
    · refine List.forall₂_map_right_iff.mpr (List.forall₂_same.mpr fun plan member => ⟨rfl, ?_⟩)
      obtain ⟨⟨type, shown, own⟩, -⟩ := shown_of_mem_plans planned member
      refine forall₂_type_distinctAttributes (module.Refers config.registry filtered) _
        fun value given => ?_
      exact refers_of_input built linked applied shown (NamedType.mem_inputs_of_argument own given)

end RequestModule

/-! ### A search that asks for a dropped enum -/

def archive : Schema String where
  types := [
    { name := "Query",
      body := .object [{ name := "count", type := .named ⟨.scalar, "Int"⟩,
                         arguments := [{ name := "like",
                                         type := .named ⟨.inputObject, "Search"⟩ }] }] [] },
    { name := "Search",
      body := .inputObject [{ name := "era", type := .named ⟨.enum, "LegacyEra"⟩ }] },
    { name := "LegacyEra", body := .enum [{ name := "BRONZE" }] },
    { name := "Int", body := .scalar }]
  roots := ⟨"Query", none, none⟩

namespace Archive

def withoutLegacy : TypeFilter where
  droppedPrefix := some "Legacy"

def modern : Schema String where
  types := archive.types.filter fun type => type.name ≠ "LegacyEra"
  roots := archive.roots

theorem linked : archive.Linked where
  resolves := by decide
  input := by decide
  visible := by
    have plain : ∀ type ∈ archive.types, ∀ ref ∈ type.references,
        isInternalName ref.name = false := by decide
    exact fun type shown => plain type shown.1

theorem applyAll_withoutLegacy : TypeFilter.applyAll [withoutLegacy] archive = .ok modern := by
  decide +kernel

def count : Field String where
  name := "count"
  type := .named ⟨.scalar, "Int"⟩
  arguments := [{ name := "like", type := .named ⟨.inputObject, "Search"⟩ }]

theorem not_reaches (object : ObjectType String) : ¬archive.Reaches count object := by
  intro reached
  induction reached with
  | start returned => cases returned
  | step _ _ _ ih => exact ih

def plan : Plan String where
  operation := ⟨.query, { name := "Query", fields := [count] }⟩
  field := count

end Archive

open Archive in
theorem RequestModule.build_filtered_of_archive : archive.Built ∧ archive.Linked ∧
    TypeFilter.applyAll [withoutLegacy] archive = .ok modern ∧
    Config.planAll {} modern = .ok [plan] ∧
    ∃ module, build {} modern [plan] = .ok module ∧ ∃ input ∈ module.inputs,
      input.name = "Search" ∧ ∃ made ∈ input.attributes,
        made.type.innermost = "LegacyEra" ∧ made.type.innermost ∉ module.typeNames := by
  have built : archive.Built := by decide
  obtain ⟨only, -, whole⟩ :=
    RequestModule.build_filtered {} built linked.holds applyAll_withoutLegacy
  have planned : Config.planAll {} modern = .ok [plan] := by
    refine (only [plan]).mpr ⟨rfl, rfl, fun other member met meets => ?_⟩
    obtain rfl := List.mem_singleton.mp member
    rcases meets with rfl | ⟨object, reached, -⟩
    · exact ⟨_, rfl⟩
    · exact absurd reached (not_reaches object)
  obtain ⟨module, done, inputs, -⟩ := whole linked [plan] planned
  obtain ⟨input, _, ⟨named, values⟩, -, classes⟩ := List.forall₂_cons_left_iff.mp inputs
  obtain ⟨made, _, ⟨written, held⟩, -, attributes⟩ := List.forall₂_cons_left_iff.mp values
  refine ⟨built, linked, applyAll_withoutLegacy, planned, module, done, input,
    classes ▸ List.mem_cons_self, named, made, attributes ▸ List.mem_cons_self, written, ?_⟩
  exact fun listed => nomatch held.mp listed

open Archive in
/-- Plans come back, though the search that is kept asks for the enum that is dropped. -/
theorem Config.planAll_modern : archive.Built ∧ archive.Linked ∧
    TypeFilter.applyAll [withoutLegacy] archive = .ok modern ∧
    Config.planAll {} modern = .ok [plan] ∧
    ∃ type ∈ modern.ofKind .inputObject, ∃ value ∈ type.inputFields,
      archive.Holds value.type.innermost ∧ ¬modern.Holds value.type.innermost :=
  ⟨by decide, linked, applyAll_withoutLegacy, Config.planAll_ok.mpr ⟨rfl, rfl⟩,
    _, List.mem_cons_self, _, List.mem_cons_self, ⟨_, rfl⟩, nofun⟩

end GraphqlRequests
