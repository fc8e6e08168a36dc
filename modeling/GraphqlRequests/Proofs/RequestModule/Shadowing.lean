import GraphqlRequests.Proofs.Naming.Attributes
import GraphqlRequests.Proofs.RequestModule.Legal
import GraphqlRequests.Proofs.Scalar.Paths
import GraphqlRequests.Proofs.Source.FreeNames

/-!
# Attributes that hide types

In the body of a class an attribute hides what is called like it elsewhere, and so the annotations
there may not look its name up. The aliases of modules start with an underscore, and no attribute
does; but a built-in type or a class of the module is looked up by its own name, and an attribute
may have just that.
-/

namespace GraphqlRequests

open Source
open Naming (Attributelike)

/-! ### Annotations of scalars -/

namespace ScalarMapping

variable {path name : String}

theorem ne_moduleAlias (attributelike : Attributelike name) (source : String) :
    name ≠ moduleAlias source := by
  rintro rfl
  obtain ⟨c, rest, chars, other⟩ := attributelike.visible
  rw [moduleAlias, String.toList_ofList] at chars
  exact other (List.cons.inj chars).1.symm

theorem mem_freeNames_ofPath (legal : isDotted path.toList = true)
    (attributelike : Attributelike name) :
    name ∈ freeNames (ofPath path).typeText ↔ path = name := by
  have word := (isName_iff.mp attributelike.legal).1
  by_cases dot : '.' ∈ path.toList
  · obtain ⟨source, last, rfl, undotted⟩ := exists_append_of_dot dot
    have some := ne_empty_of_isDotted legal
    obtain ⟨front, named⟩ := (isDotted_append undotted).mp legal
    rw [ofPath_append some undotted, freeNames_field (isName_iff.mp named).1,
      freeNames_word (isName_iff.mp (isName_moduleAlias front)).1, List.mem_singleton]
    refine iff_of_false (ne_moduleAlias attributelike source) ?_
    rintro rfl
    exact notMem_of_isWordText word rfl dot
  · have named : isName path = true := by
      rw [isDotted, Text.splitChars_of_not_mem dot] at legal
      simpa using legal
    rw [ofPath_of_undotted dot, freeNames_word (isName_iff.mp named).1, List.mem_singleton, eq_comm]

theorem mem_freeNames_ofPath_self (attributelike : Attributelike name) :
    name ∈ freeNames (ofPath name).typeText := by
  have word := (isName_iff.mp attributelike.legal).1
  rw [ofPath_of_undotted (notMem_of_isWordText word rfl), freeNames_word word]
  exact List.mem_singleton_self name

end ScalarMapping

/-! ### What is hidden -/

/-- An attribute of this name hides what the annotation for a type looks up: the class of the type,
or the built-in type that the path of the scalar names. In a path that is no dotted path it is any
name that is looked up. -/
def Config.Hides (config : Config) (type : NamedRef String) (name : String) : Prop :=
  match type.kind with
  | .scalar =>
    config.scalarPath type.name = name ∨
      isDotted (config.scalarPath type.name).toList = false ∧
        name ∈ freeNames (ScalarMapping.ofPath (config.scalarPath type.name)).typeText
  | .interface | .union => False
  | .enum | .inputObject | .object => type.name = name

/-- Is the type told from all attributes: a class by a capital in its name, and a scalar by the
module in its path? -/
def Config.clears (config : Config) (type : NamedRef String) : Bool :=
  match type.kind with
  | .scalar => isDotted (config.scalarPath type.name).toList &&
      (config.scalarPath type.name).toList.contains '.'
  | .interface | .union => true
  | .enum | .inputObject | .object => type.name.toList.any Char.isUpper

theorem Config.not_hides {config : Config} {type : NamedRef String} {name : String}
    (clear : config.clears type = true) (attributelike : Attributelike name) :
    ¬config.Hides type name := by
  have capital : type.name.toList.any Char.isUpper = true → type.name ≠ name := by
    rintro upper rfl
    obtain ⟨c, member, upper⟩ := List.any_eq_true.mp upper
    rw [attributelike.small c member] at upper
    cases upper
  rw [clears] at clear
  rw [Hides]
  cases kind : type.kind with
  | scalar =>
    simp only [kind, Bool.and_eq_true, List.contains_iff_mem] at clear
    obtain ⟨legal, dot⟩ := clear
    rintro (rfl | ⟨illegal, -⟩)
    · exact notMem_of_isWordText (isName_iff.mp attributelike.legal).1 rfl dot
    · rw [legal] at illegal
      cases illegal
  | interface | union => exact not_false
  | enum | inputObject | object =>
    rw [kind] at clear
    exact capital clear

namespace RequestModule

variable {config : Config} {schema : Schema String} {plans : List (Plan String)} {name : String}

theorem mem_freeNames_atom {type : NamedRef String} (attributelike : Attributelike name)
    (named : Sdl.isName type.name.toList = true) :
    name ∈ freeNames (atom config.registry type) ↔ config.Hides type name := by
  have own : name ∈ freeNames type.name ↔ type.name = name := by
    rw [freeNames_word (Naming.isWordText_of_isName named), List.mem_singleton, eq_comm]
  rw [atom, Config.Hides]
  cases type.kind with
  | scalar =>
    have mapped : (config.registry.mappingOf type.name).typeText
        = (ScalarMapping.ofPath (config.scalarPath type.name)).typeText :=
      congrArg ScalarMapping.typeText (config.mapping_eq type.name)
    simp only [mapped]
    cases legal : isDotted (config.scalarPath type.name).toList with
    | true =>
      rw [ScalarMapping.mem_freeNames_ofPath legal attributelike]
      simp
    | false =>
      refine ⟨fun member => .inr ⟨rfl, member⟩, ?_⟩
      rintro (same | ⟨-, member⟩)
      · rw [same]
        exact ScalarMapping.mem_freeNames_ofPath_self attributelike
      · exact member
  | interface | union =>
    have other : name ≠ "_typing" := ScalarMapping.ne_moduleAlias attributelike "typing"
    have any : freeNames "_typing.Any" = ["_typing"] := by decide
    simp [any, other]
  | enum | inputObject | object => exact own

theorem mem_freeNames_typeFor {type : TypeRef (NamedRef String)} {mayOmit : Bool}
    (attributelike : Attributelike name) (named : Sdl.isName type.innermost.name.toList = true) :
    name ∈ freeNames (typeFor config.registry type mayOmit).written ↔
      config.Hides type.innermost name := by
  have other : name ≠ "_typing" := ScalarMapping.ne_moduleAlias attributelike "typing"
  rw [mem_freeNames_written other, innermost_typeFor]
  exact mem_freeNames_atom attributelike named

/-- What the attributes of a class hide, and what they do not. -/
structure HidesOnly (config : Config) (types : List (TypeRef (NamedRef String)))
    (attributes : List Attribute) : Prop where
  named : ∀ a ∈ attributes, Attributelike a.name
  clear : ∀ type ∈ types, config.clears type.innermost = true →
    ∀ a ∈ attributes, ¬config.Hides type.innermost a.name
  hides : List.Forall₂ (fun type made => ∀ a ∈ attributes,
    a.name ∈ freeNames made.type.written ↔ config.Hides type.innermost a.name) types attributes

theorem hidesOnly_distinctAttributes {α : Type} {type : α → TypeRef (NamedRef String)}
    {make : α → Attribute} {reserved : List String} {list : List α}
    (named : ∀ x ∈ list, Attributelike (make x).name)
    (typed : ∀ x ∈ list, ∃ mayOmit, (make x).type = typeFor config.registry (type x) mayOmit)
    (refers : ∀ x ∈ list, Sdl.isName (type x).innermost.name.toList = true) :
    HidesOnly config (list.map type) (distinctAttributes reserved (list.map make)) := by
  have attributelike : ∀ a ∈ distinctAttributes reserved (list.map make), Attributelike a.name :=
    forall_name_distinctAttributes (fun _ n given => given.underscored n)
      (List.forall_mem_map.mpr named)
  refine ⟨attributelike, ?clear, List.forall₂_map_left_iff.mpr ?hides⟩
  case clear => exact fun type _ clear a listed => Config.not_hides clear (attributelike a listed)
  case hides =>
    refine forall₂_type_distinctAttributes (fun x code => ∀ a ∈ distinctAttributes reserved _,
      a.name ∈ freeNames code.written ↔ config.Hides (type x).innermost a.name) reserved ?_
    intro x member a listed
    obtain ⟨mayOmit, same⟩ := typed x member
    rw [same]
    exact mem_freeNames_typeFor (attributelike a listed) (refers x member)

/-! ### Modules -/

theorem hidesOnly_of_fields {reserved : List String} {mayOmit : Field String → Bool}
    {fields : List (Field String)} (named : ∀ field ∈ fields, Sdl.isName field.name.toList = true)
    (refers : ∀ field ∈ fields, Sdl.isName field.type.innermost.name.toList = true) :
    HidesOnly config (fields.map (·.type)) (distinctAttributes reserved
      (fields.map fun field => ofField config.registry (mayOmit field) field)) :=
  hidesOnly_distinctAttributes
    (fun field own => Naming.attributelike_attributeName (named field own))
    (fun field _ => ⟨mayOmit field, rfl⟩) refers

theorem hidesOnly_of_inputs {reserved : List String} {values : List (InputValue String)}
    (named : ∀ value ∈ values, Sdl.isName value.name.toList = true)
    (refers : ∀ value ∈ values, Sdl.isName value.type.innermost.name.toList = true) :
    HidesOnly config (values.map (·.type))
      (distinctAttributes reserved (values.map (ofInput config.registry))) :=
  hidesOnly_distinctAttributes
    (fun value own => Naming.attributelike_attributeName (named value own))
    (fun value _ => ⟨value.default ≠ .null, rfl⟩) refers

/-- In each class of a module the attributes have no capitals and do not start with underscores, and
one of them is looked up by an annotation exactly where it has the name of the class that the
annotation stands for, or is the path of a scalar. So they hide nothing that is imported, and no
class with a capital in its name. -/
theorem build_hidesOnly (built : schema.Built) (worded : schema.Worded)
    (references : ∀ type ∈ schema.types, ∀ ref ∈ type.references,
      Sdl.isName ref.name.toList = true)
    (planned : config.planAll schema = .ok plans) :
    ∃ module, build config schema plans = .ok module ∧
      (∀ model ∈ module.models, ∃ object, schema.object? model.name = some object ∧
        HidesOnly config (object.fields.map (·.type)) model.attributes) ∧
      (∀ input ∈ module.inputs, ∃ type, schema.type? input.name = some type ∧
        HidesOnly config (type.inputFields.map (·.type)) input.attributes) ∧
      List.Forall₂ (fun plan request =>
          HidesOnly config (plan.field.arguments.map (·.type)) request.attributes)
        plans module.requests := by
  refine ⟨_, build_of_planAll_ok built planned, ?models, ?inputs, ?requests⟩
  case models =>
    intro model member
    obtain ⟨object, listed, rfl⟩ := List.mem_map.mp member
    obtain ⟨type, shown, -, whole⟩ := Schema.mem_objects.mp (mem_reachedObjects.mp listed).1
    have fields := NamedType.fields_of_object? whole
    refine ⟨object, built.object?_name shown.1 whole, hidesOnly_of_fields ?_ ?_⟩
    · exact fields ▸ worded.fields type shown.1
    · exact fun field own => references type shown.1 _
        (NamedType.mem_references_of_field (fields ▸ own))
  case inputs =>
    intro input member
    obtain ⟨type, listed, rfl⟩ := List.mem_map.mp member
    obtain ⟨inside, -, -⟩ := Schema.mem_ofKind.mp listed
    refine ⟨type, built.type?_eq_some.mpr ⟨inside, rfl⟩, hidesOnly_of_inputs ?_ ?_⟩
    · exact fun value own => worded.inputs type inside value (List.mem_append_right _ own)
    · exact fun value own => references type inside _
        (NamedType.mem_references_of_input (List.mem_append_right _ own))
  case requests =>
    refine List.forall₂_map_right_iff.mpr (List.forall₂_same.mpr fun plan member => ?_)
    obtain ⟨⟨type, shown, own⟩, -⟩ := shown_of_mem_plans planned member
    refine hidesOnly_of_inputs ?_ ?_
    · exact fun value given =>
        worded.inputs type shown.1 value (NamedType.mem_inputs_of_argument own given)
    · exact fun value given => references type shown.1 _
        (NamedType.mem_references_of_input (NamedType.mem_inputs_of_argument own given))

open Harbour in
theorem build_hidesOnly_of_harbour : harbour.Built ∧ harbour.Worded ∧
    (∀ type ∈ harbour.types, ∀ ref ∈ type.references, Sdl.isName ref.name.toList = true) ∧
    ∃ plan module, Config.planAll {} harbour = .ok [plan] ∧
      build {} harbour [plan] = .ok module ∧
      ∀ model ∈ module.models, ∀ a ∈ model.attributes, ∀ b ∈ model.attributes,
        a.name ∉ freeNames b.type.written := by
  have worded : harbour.Worded := ⟨by decide, by decide, by decide, by decide⟩
  have references : ∀ type ∈ harbour.types, ∀ ref ∈ type.references,
      Sdl.isName ref.name.toList = true := by decide
  have cleared : ∀ type ∈ harbour.types, ∀ ref ∈ type.references,
      Config.clears {} ref = true := by decide
  obtain ⟨plan, -, planned⟩ := exists_plans
  obtain ⟨module, done, models, -, -⟩ :=
    build_hidesOnly harbour_built worded references planned
  refine ⟨harbour_built, worded, references, plan, module, planned, done, ?_⟩
  intro model member a first b second
  obtain ⟨object, found, -, clear, hides⟩ := models model member
  obtain ⟨type, here, whole⟩ := Schema.object?_eq_some.mp found
  obtain ⟨ref, listed, exactly⟩ := exists_of_mem_forall₂ hides b second
  obtain ⟨field, own, rfl⟩ := List.mem_map.mp listed
  have mentioned := NamedType.mem_references_of_field
    (NamedType.fields_of_object? whole ▸ own : field ∈ type.fields)
  rw [exactly a first]
  exact clear _ listed (cleared type (Schema.mem_of_type? here) _ mentioned) a first

def search : Schema String where
  types := [
    { name := "Query",
      body := .object [{ name := "find", type := .named ⟨.scalar, "Int"⟩,
                         arguments := [{ name := "str", type := .named ⟨.scalar, "String"⟩ }] }]
        [] },
    { name := "Int", body := .scalar },
    { name := "String", body := .scalar }]
  roots := ⟨"Query", none, none⟩

/-- The argument hides the type in its own annotation. -/
theorem build_hiding : search.Built ∧ search.Worded ∧
    (∀ type ∈ search.types, ∀ ref ∈ type.references, Sdl.isName ref.name.toList = true) ∧
    ∃ plans module, Config.planAll {} search = .ok plans ∧ build {} search plans = .ok module ∧
      ∃ request ∈ module.requests, ∃ a ∈ request.attributes,
        a.name ∈ freeNames a.type.written := by
  let find : Field String :=
    { name := "find", type := .named ⟨.scalar, "Int"⟩,
      arguments := [{ name := "str", type := .named ⟨.scalar, "String"⟩ }] }
  let plan : Plan String :=
    ⟨⟨.query, { name := "Query", fields := [find] }⟩, find, [], [], [], []⟩
  have built : search.Built := by decide
  have worded : search.Worded := ⟨by decide, by decide, by decide, by decide⟩
  have planned : Config.planAll {} search = .ok [plan] := Config.planAll_ok.mpr ⟨rfl, rfl⟩
  refine ⟨built, worded, by decide, _, _, planned, build_of_planAll_ok built planned, ?_⟩
  refine ⟨ofPlan (Config.registry {}) plan, List.mem_singleton_self _, ?_⟩
  exact ⟨⟨"str", "str", .optional (.named "str"), .null⟩, by decide +kernel, by decide +kernel⟩

end RequestModule

end GraphqlRequests
