import GraphqlRequests.Generate
import GraphqlRequests.Proofs.RequestModule.Names
import GraphqlRequests.Proofs.RequestModule.Verdict
import GraphqlRequests.Proofs.Schema.Proper

/-!
# Which modules are programs

Generated text is checked before it is given out. From a schema with names of the query language,
where no class is called as a keyword, the text is a program exactly where no field of a root starts
with a digit, underscores aside, and where each enum has a value or a description. Names of
attributes and of enum members never keep it from being one.
-/

namespace GraphqlRequests

open Source Naming

variable {config : Config} {schema : Schema String} {plans : List (Plan String)}

/-! ### Class names of requests -/

namespace OperationKind

def suffix (kind : OperationKind) : String :=
  pascalCase kind.keyword ++ "Request"

theorem className_eq (kind : OperationKind) (field : String) :
    kind.className field = pascalCase field ++ kind.suffix :=
  String.append_assoc

theorem suffix_plain (kind : OperationKind) : isWordText kind.suffix.toList = true ∧
    (∀ c ∈ kind.suffix.toList, isPlain c = true) ∧
    ∀ word ∈ keywords, ¬kind.suffix.toList <:+ word.toList := by
  have long : 12 ≤ kind.suffix.toList.length := by cases kind <;> decide
  have short : ∀ word ∈ keywords, word.toList.length ≤ 8 := by decide
  have plain : kind.suffix.toList.all isPlain = true := by cases kind <;> decide
  refine ⟨by cases kind <;> decide, List.all_eq_true.mp plain, fun word keyword ends => ?_⟩
  exact absurd (long.trans (ends.length_le.trans (short word keyword))) (by decide)

variable {kind : OperationKind} {field : String}

theorem isName_className (named : Sdl.isName field.toList = true) :
    isName (kind.className field) = true ↔ startsWithDigit field = false := by
  obtain ⟨shape, plain, free⟩ := kind.suffix_plain
  rw [className_eq]
  exact isName_pascalCase_append named shape plain free

theorem wordlike_className (named : Sdl.isName field.toList = true) :
    Wordlike (kind.className field) := by
  cases digit : startsWithDigit field with
  | false => exact .inl (isName_iff.mp ((isName_className named).mpr digit)).1
  | true =>
    obtain ⟨c, rest, chars, isDigit⟩ := (startsWithDigit_iff named).mp digit
    have inside := (pascalChars_plain (isPlain_of_isName named)).1
    rw [pascalCase, String.toList_ofList] at chars
    rw [chars] at inside
    refine .inr ⟨c, rest ++ kind.suffix.toList, ?_, isDigit, fun d member => ?_⟩
    · rw [className_eq, String.toList_append, pascalCase, String.toList_ofList, chars]
      rfl
    · rcases List.mem_append.mp member with here | after
      · exact inWord_of_isPlain (inside d (List.mem_cons_of_mem _ here))
      · exact inWord_of_isPlain (kind.suffix_plain.2.1 d after)

end OperationKind

/-! ### Annotations -/

namespace CodeRef

variable {α β : Type}

@[simp] theorem layers_map (f : α → β) (ref : CodeRef α) : (ref.map f).layers = ref.layers := by
  induction ref with
  | named => rfl
  | list item ih => exact congrArg (· + 1) ih
  | optional inner ih => exact congrArg (· + 1) ih

theorem layers_le_orAbsent (ref : CodeRef α) : ref.layers ≤ ref.orAbsent.layers := by
  cases ref with
  | named => exact Nat.zero_le _
  | list => exact Nat.le_succ _
  | optional => exact Nat.le_refl _

end CodeRef

/-- Brackets around the innermost type of an annotation nest less deep than brackets may. -/
def TypeRef.Shallow (type : TypeRef (NamedRef String)) : Prop :=
  type.toCode.orAbsent.layers < Literal.mostBrackets

instance (type : TypeRef (NamedRef String)) : Decidable type.Shallow :=
  inferInstanceAs (Decidable (_ < _))

namespace RequestModule

/-- The annotation for a named type is an expression. -/
def Annotable (config : Config) (type : NamedRef String) : Prop :=
  Expresses (atom config.registry type) 0

theorem expresses_typeFor {type : TypeRef (NamedRef String)} {mayOmit : Bool}
    (annotable : Annotable config type.innermost) (shallow : type.Shallow) :
    Expresses (typeFor config.registry type mayOmit).written 199 := by
  have inner : Expresses (typeFor config.registry type mayOmit).innermost 0 := by
    rw [innermost_typeFor]
    exact annotable
  refine (CodeRef.expresses_written inner).mono ?_
  have outer := CodeRef.layers_le_orAbsent type.toCode
  rw [TypeRef.Shallow, Literal.mostBrackets] at shallow
  cases mayOmit <;> simp [typeFor] <;> omega

theorem legal_distinctAttributes {reserved : List String} {attributes : List Attribute}
    (legal : ∀ a ∈ attributes, Legal a) : ∀ a ∈ distinctAttributes reserved attributes, Legal a := by
  intro a member
  obtain ⟨i, made⟩ := List.mem_iff_getElem?.mp member
  obtain ⟨from', name, here, renamed, rfl⟩ := List.getElem?_zipWith_eq_some.mp made
  have names : ∀ name ∈ attributes.map (·.name), isName name = true :=
    List.forall_mem_map.mpr fun a listed => (legal a listed).name
  exact ⟨isName_of_mem_distinct names name (List.mem_of_getElem? renamed),
    (legal from' (List.mem_of_getElem? here)).type⟩

theorem legal_ofField {field : Field String} {mayOmit : Bool} (named : Sdl.isName field.name.toList = true)
    (annotable : Annotable config field.type.innermost) (shallow : field.type.Shallow) :
    Legal (ofField config.registry mayOmit field) where
  name := isName_attributeName named
  type := (expresses_typeFor annotable shallow).mono (by decide)

theorem legal_ofInput {value : InputValue String} (named : Sdl.isName value.name.toList = true)
    (annotable : Annotable config value.type.innermost) (shallow : value.type.Shallow) :
    Legal (ofInput config.registry value) where
  name := isName_attributeName named
  type := (expresses_typeFor annotable shallow).mono (by decide)

end RequestModule

/-! ### Schemas -/

namespace NamedType

def enumValues (type : NamedType String) : List (EnumValue String) :=
  match type.body with
  | .enum values => values
  | _ => []

end NamedType

namespace Schema

/-- All names in the schema are names of the query language. -/
structure Worded (schema : Schema String) : Prop where
  types : ∀ type ∈ schema.types, Sdl.isName type.name.toList = true
  fields : ∀ type ∈ schema.types, ∀ field ∈ type.fields, Sdl.isName field.name.toList = true
  inputs : ∀ type ∈ schema.types, ∀ value ∈ type.inputs, Sdl.isName value.name.toList = true
  values : ∀ type ∈ schema.types, ∀ value ∈ type.enumValues, Sdl.isName value.name.toList = true

/-- Every reference names a type of the kind that it carries. -/
def Resolves (schema : Schema String) : Prop :=
  ∀ type ∈ schema.types, ∀ ref ∈ type.references,
    (schema.type? ref.name).map NamedType.kind = some ref.kind

instance (schema : Schema String) : Decidable schema.Resolves :=
  inferInstanceAs (Decidable (∀ type ∈ schema.types, ∀ ref ∈ type.references, _ = _))

def Shallow (schema : Schema String) : Prop :=
  ∀ type ∈ schema.types, (∀ field ∈ type.fields, field.type.Shallow) ∧
    ∀ value ∈ type.inputs, value.type.Shallow

instance (schema : Schema String) : Decidable schema.Shallow :=
  inferInstanceAs (Decidable (∀ type ∈ schema.types, _ ∧ _))

def KeywordFree (schema : Schema String) : Prop :=
  ∀ type ∈ schema.types, type.kind ∈ [.enum, .inputObject, .object] → type.name ∉ keywords

instance (schema : Schema String) : Decidable schema.KeywordFree :=
  inferInstanceAs (Decidable (∀ type ∈ schema.types, _ → _))

/-- No field of a root starts with a digit, underscores aside, and each enum has a value or a
description. -/
structure Emittable (schema : Schema String) : Prop where
  fields : ∀ operation ∈ schema.operations, ∀ field ∈ operation.type.fields,
    startsWithDigit field.name = false
  enums : ∀ type ∈ schema.ofKind .enum,
    type.enumValues ≠ [] ∨ (RequestModule.described type.description).isSome = true

end Schema

/-! ### Modules of schemas -/

namespace RequestModule

theorem hasBody_ofEnum {type : NamedType String} : (ofEnum type).HasBody ↔
    type.enumValues ≠ [] ∨ (described type.description).isSome = true := by
  obtain ⟨name, description, body⟩ := type
  cases body <;> simp [EnumClass.HasBody, ofEnum, NamedType.enumValues]

section Spelled

variable (worded : schema.Worded) (free : schema.KeywordFree)
include worded free

theorem isName_of_kind {type : NamedType String} (member : type ∈ schema.types)
    (kind : type.kind ∈ [.enum, .inputObject, .object]) : isName type.name = true :=
  isName_iff.mpr ⟨isWordText_of_isName (worded.types type member), free type member kind⟩

theorem isName_of_mem_inputs {input : ModelClass}
    (member : input ∈ (ofPlans config schema plans).inputs) : isName input.name = true := by
  obtain ⟨type, listed, rfl⟩ := List.mem_map.mp member
  obtain ⟨inside, kind, -⟩ := Schema.mem_ofKind.mp listed
  have legal := isName_of_kind worded free inside (by rw [kind]; decide)
  exact legal

theorem isName_of_mem_models {model : ModelClass}
    (member : model ∈ (ofPlans config schema plans).models) : isName model.name = true := by
  obtain ⟨object, reached, rfl⟩ := List.mem_map.mp member
  obtain ⟨type, ⟨inside, -⟩, -, whole⟩ := Schema.mem_objects.mp (mem_reachedObjects.mp reached).1
  have kind : type.kind = .object := NamedType.object?_isSome.mp (by rw [whole]; rfl)
  have legal := isName_of_kind worded free inside (by rw [kind]; decide)
  rw [(NamedType.object?_eq_some.mp whole).1] at legal
  exact legal

theorem enums_legal_iff :
    (∀ enum ∈ (ofPlans config schema plans).enums, isName enum.name = true ∧ enum.HasBody) ↔
      ∀ type ∈ schema.ofKind .enum,
        type.enumValues ≠ [] ∨ (described type.description).isSome = true := by
  refine List.forall_mem_map.trans (forall₂_congr fun type listed => ?_)
  obtain ⟨inside, kind, -⟩ := Schema.mem_ofKind.mp listed
  have legal := isName_of_kind worded free inside (by rw [kind]; decide)
  exact (and_iff_right legal).trans hasBody_ofEnum

/-- Classes for types always have legal names, so it is up to the fields of the operations. -/
theorem rebuilt_legal_iff (planned : config.planAll schema = .ok plans) :
    (∀ name ∈ (ofPlans config schema plans).rebuilt, isName name = true) ↔
      ∀ operation ∈ schema.operations, ∀ field ∈ operation.type.fields,
        startsWithDigit field.name = false := by
  have classes : (ofPlans config schema plans).requests.map (·.name)
      = schema.operations.flatMap fun operation =>
        operation.type.fields.map fun field => operation.kind.className field.name := by
    rw [← Config.map_className planned, ofPlans, List.map_map]
    rfl
  have types : ∀ name ∈ (ofPlans config schema plans).inputs.map (·.name)
      ++ (ofPlans config schema plans).models.map (·.name), isName name = true :=
    List.forall_mem_append.mpr
      ⟨List.forall_mem_map.mpr fun _ => isName_of_mem_inputs worded free,
        List.forall_mem_map.mpr fun _ => isName_of_mem_models worded free⟩
  -- A class for a request is named for its field, which may start with a digit.
  rw [rebuilt, List.forall_mem_append, and_iff_right types, classes, List.forall_mem_flatMap]
  refine forall₂_congr fun operation listed => ?_
  refine List.forall_mem_map.trans (forall₂_congr fun field own => ?_)
  obtain ⟨type, ⟨inside, -⟩, whole⟩ := Schema.shows_of_mem_operations listed
  exact OperationKind.isName_className
    (worded.fields type inside field (NamedType.fields_of_object? whole ▸ own))

variable (resolves : schema.Resolves) (paths : ∀ path ∈ config.scalars, isDotted path.2.toList = true)
include resolves paths

theorem annotable_of_mem_references {type : NamedType String} (member : type ∈ schema.types)
    {ref : NamedRef String} (refers : ref ∈ type.references) : Annotable config ref := by
  have any : Expresses ("_typing" ++ "." ++ "Any") 0 := (expresses_name (by decide)).field (by decide)
  obtain ⟨target, found, kind⟩ := Option.map_eq_some_iff.mp (resolves type member ref refers)
  have listed := Schema.mem_of_type? found
  have named : target.name = ref.name := Schema.key_of_type? found
  have defined : target.kind ∈ [.enum, .inputObject, .object] → Expresses ref.name 0 := by
    intro stands
    exact expresses_name (named ▸ isName_of_kind worded free listed stands)
  rw [Annotable, atom]
  rw [kind] at defined
  cases shape : ref.kind with
  | scalar => exact (Config.spelled_mapping paths ref.name).expresses
  | interface | union => exact any
  | enum | inputObject | object => exact defined (by rw [shape]; decide)

variable (shallow : schema.Shallow)
include shallow

theorem legal_of_mem_fields {type : NamedType String} (member : type ∈ schema.types)
    {field : Field String} (own : field ∈ type.fields) (mayOmit : Bool) :
    Legal (ofField config.registry mayOmit field) :=
  legal_ofField (worded.fields type member field own)
    (annotable_of_mem_references worded free resolves paths member
      (NamedType.mem_references_of_field own))
    ((shallow type member).1 field own)

theorem legal_of_mem_inputs {type : NamedType String} (member : type ∈ schema.types)
    {value : InputValue String} (own : value ∈ type.inputs) :
    Legal (ofInput config.registry value) :=
  legal_ofInput (worded.inputs type member value own)
    (annotable_of_mem_references worded free resolves paths member
      (NamedType.mem_references_of_input own))
    ((shallow type member).2 value own)

variable (planned : config.planAll schema = .ok plans)
include planned

theorem spelled_ofPlans : (ofPlans config schema plans).Spelled where
  sources := Config.isDotted_of_mem_sourcesFor paths
  enums enum member := by
    obtain ⟨type, listed, rfl⟩ := List.mem_map.mp member
    obtain ⟨inside, -, -⟩ := Schema.mem_ofKind.mp listed
    refine ⟨.inl (isWordText_of_isName (worded.types type inside)), ?_⟩
    exact List.forall_mem_map.mpr fun value own =>
      isName_enumMemberName (worded.values type inside value own)
  inputs input member := by
    obtain ⟨type, listed, rfl⟩ := List.mem_map.mp member
    obtain ⟨inside, -, -⟩ := Schema.mem_ofKind.mp listed
    refine ⟨.inl (isWordText_of_isName (worded.types type inside)), legal_distinctAttributes ?_⟩
    exact List.forall_mem_map.mpr fun value own =>
      legal_of_mem_inputs worded free resolves paths shallow inside (List.mem_append_right _ own)
  models model member := by
    obtain ⟨object, listed, rfl⟩ := List.mem_map.mp member
    obtain ⟨type, ⟨inside, -⟩, -, whole⟩ := Schema.mem_objects.mp (mem_reachedObjects.mp listed).1
    have named := worded.types type inside
    rw [(NamedType.object?_eq_some.mp whole).1] at named
    refine ⟨.inl (isWordText_of_isName named), legal_distinctAttributes ?_⟩
    rw [← NamedType.fields_of_object? whole]
    exact List.forall_mem_map.mpr fun field own =>
      legal_of_mem_fields worded free resolves paths shallow inside own _
  requests request member := by
    obtain ⟨plan, listed, rfl⟩ := List.mem_map.mp member
    obtain ⟨⟨type, ⟨inside, -⟩, own⟩, -⟩ := shown_of_mem_plans planned listed
    have named := worded.fields type inside plan.field own
    have annotable := annotable_of_mem_references worded free resolves paths inside
      (NamedType.mem_references_of_field own)
    refine ⟨OperationKind.wordlike_className named, isWordText_of_isName named,
      expresses_typeFor annotable ((shallow type inside).1 _ own), legal_distinctAttributes ?_⟩
    exact List.forall_mem_map.mpr fun value given => legal_of_mem_inputs worded free resolves paths
      shallow inside (NamedType.mem_inputs_of_argument own given)

theorem isModule_text_iff :
    isModule (ofPlans config schema plans).text = true ↔ schema.Emittable := by
  have spelled := spelled_ofPlans worded free resolves paths shallow planned
  have nonempty : (ofPlans config schema plans).textLines ≠ [] := by simp [textLines, opening]
  have verdict := (decides_textLines spelled).isModule_iff nonempty
  rw [enums_legal_iff worded free, rebuilt_legal_iff worded free planned] at verdict
  exact verdict.trans ⟨fun both => ⟨both.2, both.1⟩,
    fun emittable => ⟨emittable.enums, emittable.fields⟩⟩

end Spelled

end RequestModule

/-! ### Generated code -/

namespace Generator

variable {generator : Generator String}

/-- The descriptions of the module can stand in a text, and no null character does. -/
def CanWrite (module : RequestModule) : Prop :=
  moduleText module = .ok module.text ∧ '\x00' ∉ module.text.toList

theorem no_null_of_lines {module : RequestModule}
    (clean : ∀ line ∈ module.textLines, '\x00' ∉ line.toList) : '\x00' ∉ module.text.toList := by
  simp only [RequestModule.text, String.toList_join, List.mem_flatMap, List.mem_map,
    not_exists, not_and]
  rintro _ ⟨line, listed, rfl⟩
  simpa using clean line listed

theorem moduleText_eq (module : RequestModule) : moduleText module = .ok module.text ∨
    (∃ cause, moduleText module = .error (.emit cause)) ∨ moduleText module = .error .unencodable := by
  rw [moduleText]
  split
  · next cause _ => exact .inr (.inl ⟨cause, rfl⟩)
  · split
    · exact .inl rfl
    · exact .inr (.inr rfl)

theorem code_of_build {module : RequestModule} (planned : generator.plans = .ok plans)
    (built : RequestModule.build generator.config generator.schema plans = .ok module) (file : String) :
    (generator.code file = .ok (Header.addAll generator.headers module.text) ↔
      CanWrite module ∧ isModule module.text = true) ∧
    (generator.code file = .error (.illegalModule file) ↔
      CanWrite module ∧ isModule module.text = false) := by
  have requests : generator.requests = .ok module := by
    simp only [requests, planned, bind, Except.bind, built]
    rfl
  rw [code, requests]
  simp only [bind, Except.bind, finished, CanWrite]
  rcases moduleText_eq module with written | ⟨cause, failed⟩ | failed
  · rw [written]
    by_cases null : '\x00' ∈ module.text.toList
    · simp [null, throw, throwThe, MonadExceptOf.throw]
    · cases legal : isModule module.text <;>
        simp [null, legal, throw, throwThe, MonadExceptOf.throw, pure, Except.pure]
  · simp [failed]
  · simp [failed]

def numbered : Schema String where
  types := [
    { name := "Query", body := .object [{ name := "_1", type := .named ⟨.scalar, "Int"⟩ }] [] },
    { name := "Int", body := .scalar }]
  roots := ⟨"Query", none, none⟩

end Generator

end GraphqlRequests
