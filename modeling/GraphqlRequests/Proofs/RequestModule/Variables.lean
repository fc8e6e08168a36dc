import GraphqlRequests.Proofs.Plan.Executable
import GraphqlRequests.Proofs.RequestModule.Annotation
import GraphqlRequests.Proofs.RequestModule.Members

/-!
# Variables of requests

The arguments of an operation field are written three times: as variables of the operation, as
arguments in the call of the field, and as attributes of the request class. All three have the names
of the arguments in order, whatever the attributes are called in the class.
-/

namespace GraphqlRequests

open Executable (Definition)
open Sdl (Literal)

/-- A plan whose operation can be read back, with the defaults of its variables. -/
structure Plan.Legible (plan : Plan String) (default? : InputValue String → Option Literal) :
    Prop where
  name : Name.Written plan.field.name
  arguments : ∀ a ∈ plan.field.arguments, a.Declares (default? a)
  operation : Sdl.isName plan.operationName.toList = true
  roots : ∀ key ∈ plan.rootKeys, Sdl.isName key.toList = true ∧ key ≠ "on"

namespace RequestModule

open Naming (Namelike)

/-! ### Members of a request class -/

theorem namelike_distinctAttributes {reserved : List String} {attributes : List Attribute}
    (each : ∀ a ∈ attributes, Namelike a.name) :
    ∀ a ∈ distinctAttributes reserved attributes, Namelike a.name :=
  forall_name_distinctAttributes (fun _ n namelike => namelike.underscored n) each

theorem members_attributeBlock {attributes : List Attribute}
    (namelike : ∀ a ∈ attributes, Namelike a.name) :
    (attributeBlock attributes).filterMap memberOf? = attributes.map (·.name) := by
  rw [attributeBlock]
  split
  · next none => rw [none]; rfl
  · rw [List.filterMap_cons_none memberOf?_empty]
    exact filterMap_members fun a listed => members_attributeLines (namelike a listed)

theorem namelike_requestMembers : ∀ name ∈ requestMembers, Namelike name := by
  intro name member
  have some : ∀ name ∈ requestMembers, name ≠ "" := by decide
  have other : ∀ name ∈ requestMembers, name ≠ "def" := by decide
  have words : ∀ name ∈ requestMembers, name.toList.all Text.isWord = true := by decide
  exact ⟨some name member, other name member, List.all_eq_true.mp (words name member)⟩

theorem memberOf?_reserved {front name : String} (reserved : name ∈ requestMembers)
    (chars : ∃ rest, front.toList = "    ".toList ++ (name.toList ++ ':' :: rest)) {text : String} :
    memberOf? (front ++ text) = some name := by
  obtain ⟨rest, chars⟩ := chars
  exact memberOf?_named ':' (namelike_requestMembers name reserved) (by simp)
    ⟨rest ++ text.toList, by simp [chars]⟩

theorem memberOf?_inner {front : String}
    (deep : ∃ rest, front.toList = "    ".toList ++ ' ' :: rest) {text : String} :
    memberOf? (front ++ text) = none := by
  obtain ⟨rest, deep⟩ := deep
  exact memberOf?_none ' ' (by decide) ⟨rest ++ text.toList, by simp [deep]⟩

theorem members_classVars (operation name roots document : String) :
    [configLine, "", "    operation_type: ClassVar[str] = " ++ operation,
      "    operation_name: ClassVar[str] = " ++ name,
      "    root_selection_keys: ClassVar[_typing.FrozenSet[str]] = frozenset(" ++ roots ++ ")",
      "    document: ClassVar[str] = " ++ document].filterMap memberOf?
      = ["model_config", "operation_type", "operation_name", "root_selection_keys",
        "document"] := by
  have config : memberOf? configLine = some "model_config" := by
    refine memberOf?_named ' ' (namelike_requestMembers _ (by decide)) (by simp) ?_
    exact ⟨_, String.toList_ofList.trans rfl⟩
  have type : memberOf? ("    operation_type: ClassVar[str] = " ++ operation)
      = some "operation_type" := by
    refine memberOf?_reserved (by decide) ?_
    exact ⟨_, String.toList_ofList.trans rfl⟩
  have called : memberOf? ("    operation_name: ClassVar[str] = " ++ name)
      = some "operation_name" := by
    refine memberOf?_reserved (by decide) ?_
    exact ⟨_, String.toList_ofList.trans rfl⟩
  have keys : memberOf?
      ("    root_selection_keys: ClassVar[_typing.FrozenSet[str]] = frozenset(" ++ roots ++ ")")
        = some "root_selection_keys" := by
    rw [String.append_assoc]
    refine memberOf?_reserved (by decide) ?_
    exact ⟨_, String.toList_ofList.trans rfl⟩
  have text : memberOf? ("    document: ClassVar[str] = " ++ document) = some "document" := by
    refine memberOf?_reserved (by decide) ?_
    exact ⟨_, String.toList_ofList.trans rfl⟩
  simp only [List.filterMap_cons, config, memberOf?_empty, type, called, keys, text,
    List.filterMap_nil]

theorem members_payload :
    ["    def payload(self) -> _typing.Dict[str, _typing.Any]:",
      "        \"\"\"Request body for the GraphQL endpoint.\"\"\"", "        return \x7b",
      "            \"operationName\": self.operation_name,",
      "            \"query\": self.document,",
      "            \"variables\": "
        ++ "self.model_dump(mode=\"json\", by_alias=True, exclude_none=True),",
      "        \x7d"].filterMap memberOf? = ["payload"] := by
  have method : memberOf? "    def payload(self) -> _typing.Dict[str, _typing.Any]:"
      = some "payload" := by
    refine memberOf?_method (namelike_requestMembers _ (by decide)) ?_
    exact ⟨_, String.toList_ofList.trans rfl⟩
  rw [List.filterMap_cons_some method, List.filterMap_eq_nil_iff.mpr]
  simp only [List.forall_mem_cons]
  refine ⟨?_, ?_, ?_, ?_, memberOf?_inner ?sent, ?_, nofun⟩
  case sent => exact ⟨_, String.toList_ofList⟩
  all_goals exact memberOf?_none ' ' (by decide) ⟨_, String.toList_ofList⟩

theorem members_parseResult (result field : String) :
    ["", "    @classmethod",
      "    def parse_result(cls, data: _typing.Dict[str, _typing.Any]) -> " ++ result ++ ":",
      "        \"\"\"Validate this field's entry in the response \x60\x60data\x60\x60.\"\"\"",
      "        adapter = _pydantic.TypeAdapter(" ++ result ++ ")",
      "        return adapter.validate_python(data.get(" ++ field ++ "))"].filterMap memberOf?
      = ["parse_result"] := by
  have decorator : memberOf? "    @classmethod" = none :=
    memberOf?_none '@' (by decide) ⟨_, String.toList_ofList⟩
  have method : memberOf?
      ("    def parse_result(cls, data: _typing.Dict[str, _typing.Any]) -> " ++ result ++ ":")
        = some "parse_result" := by
    have opening : "    def parse_result(cls, data: _typing.Dict[str, _typing.Any]) -> ".toList
        = "    def ".toList ++ ("parse_result".toList ++ '(' :: _) := String.toList_ofList.trans rfl
    refine memberOf?_method (namelike_requestMembers _ (by decide)) ?_
    rw [String.append_assoc, String.toList_append, opening]
    simp only [List.append_assoc, List.cons_append]
    exact ⟨_, rfl⟩
  rw [List.filterMap_cons_none memberOf?_empty, List.filterMap_cons_none decorator,
    List.filterMap_cons_some method, List.filterMap_eq_nil_iff.mpr]
  simp only [List.forall_mem_cons, String.append_assoc]
  refine ⟨?docstring, memberOf?_inner ?adapter, memberOf?_inner ?validated, nofun⟩
  case docstring => exact memberOf?_none ' ' (by decide) ⟨_, String.toList_ofList⟩
  all_goals exact ⟨_, String.toList_ofList⟩

theorem members_requestLines {request : RequestClass}
    (namelike : ∀ a ∈ request.attributes, Namelike a.name) :
    (requestLines request).filterMap memberOf?
      = ["model_config", "operation_type", "operation_name", "root_selection_keys", "document"]
        ++ request.attributes.map (·.name) ++ ["payload", "parse_result"] := by
  rw [requestLines, List.filterMap_append, List.filterMap_append, members_attributeBlock namelike]
  refine congrArg₂ (· ++ ·) (congrArg (· ++ _) ?_) ?_
  · rw [List.filterMap_cons_none memberOf?_empty, List.filterMap_cons_none memberOf?_empty,
      classLine, List.filterMap_cons_none (memberOf?_className _ _),
      List.filterMap_cons_none (memberOf?_docstringLine _),
      List.filterMap_cons_none memberOf?_empty]
    exact members_classVars ..
  · rw [List.filterMap_cons_none memberOf?_empty]
    exact (List.filterMap_append ..).trans
      (congrArg₂ (· ++ ·) members_payload (members_parseResult ..))

/-! ### Variables, arguments and attributes -/

variable {registry : ScalarRegistry} {plan : Plan String}

theorem nodup_members {front back : List String} (different : (front ++ back).Nodup)
    (names : List String) : (front ++ Naming.distinct (front ++ back) names ++ back).Nodup := by
  have apart : (front ++ back ++ Naming.distinct (front ++ back) names).Nodup := by
    refine different.append (Naming.nodup_distinct _ names) ?_
    exact fun name taken given => Naming.distinct_notMem name given taken
  refine (List.Perm.nodup_iff ?_).mp apart
  rw [List.append_assoc, List.append_assoc]
  exact List.perm_append_comm.append_left front

theorem written_ends_iff {type : TypeRef (NamedRef String)}
    (plain : type.innermost.name.toList.getLast? ≠ some '!') :
    type.written.toList.getLast? = some '!' ↔ type.isNullable = false := by
  cases type with
  | named ref => exact iff_of_false plain (by simp [TypeRef.isNullable])
  | list item =>
    rw [TypeRef.written, String.toList_append, List.getLast?_append_of_ne_nil _ (by simp)]
    exact iff_of_false (by decide) (by simp [TypeRef.isNullable])
  | nonNull inner =>
    rw [TypeRef.written, String.toList_append, List.getLast?_append_of_ne_nil _ (by simp)]
    exact iff_of_true (by decide) rfl

theorem required_ofInput (value : InputValue String) : (ofInput registry value).required = true ↔
    value.type.isNullable = false ∧ value.default = .null := by
  have outside := (mirrors_typeFor registry value.type (value.default ≠ .null)).outside
  rw [Attribute.required, ofInput, outside]
  simp

/-- The operation of the plan by itself reads as one with a variable for each argument. -/
theorem read_operationLines {default? : InputValue String → Option Literal}
    (legible : plan.Legible default?) :
    Executable.read (Text.unlines plan.operationLines)
      = some [.operation (plan.rootCall default?).operation] := by
  let alone : Plan String := { plan with fragments := [] }
  have text : alone.document = Text.unlines plan.operationLines := String.append_empty
  have name : Name.Written alone.field.name := legible.name
  have entries : alone.fragments = ([] : List Document.Definition).map (·.entry) := rfl
  rw [← text]
  exact Plan.read_document name legible.arguments legible.operation legible.roots entries nofun

theorem default_eq_none_iff {value : InputValue String} {default : Option Literal}
    (declares : value.Declares default) : default = none ↔ value.default = .null := by
  have given := declares.default
  cases default with
  | none => exact iff_of_true rfl given
  | some literal => exact iff_of_false nofun given.1

theorem exists_document_eq_opening (plan : Plan String) :
    ∃ rest, plan.document = plan.opening ++ rest := by
  obtain ⟨tail, more, some, lines⟩ : ∃ tail more, more ≠ [] ∧ plan.operationLines
      = (plan.operation.kind.keyword ++ " " ++ plan.operationName
          ++ Plan.parenthesized plan.variableDefinitions ++ " \x7b")
        :: (Selection.indent ++ plan.call ++ tail) :: more := by
    by_cases leaf : plan.rootKeys = []
    · exact ⟨"", ["\x7d"], by simp, by simp [Plan.operationLines, leaf]⟩
    · exact ⟨" \x7b", plan.rootKeys.map (Selection.indent ++ Selection.indent ++ Fragment.spread ·)
        ++ [Selection.indent ++ "\x7d", "\x7d"], by simp, by simp [Plan.operationLines, leaf]⟩
  refine ⟨tail ++ "\n" ++ Text.unlines more ++ if plan.fragments = [] then ""
    else "\n\n" ++ Plan.renderFragments plan.fragments, ?_⟩
  rw [Plan.document, lines, Text.unlines, Text.join_cons _ (List.cons_ne_nil _ _),
    Text.join_cons _ some, ← Text.unlines, Plan.opening]
  simp only [String.append_assoc]
  rfl

/-- The variables of the operation, the arguments of its field and the attributes of the request
class are those of the plan's field, in order and by their names there. An attribute must be given
just where the type of its variable is not null and has no default. In the class all attributes
and all other members have different names, whatever the arguments are called. -/
theorem request_variables_agree (registry : ScalarRegistry) (plan : Plan String) :
    ∃ request, requestClass registry plan = .ok request ∧
      request.attributes.map (·.sourceName) = plan.field.arguments.map (·.name) ∧
      (∃ rest, request.document = plan.operation.kind.keyword ++ " " ++ plan.operationName
        ++ Plan.parenthesized (plan.field.arguments.map fun a => "$" ++ a.name ++ ": "
          ++ a.type.written ++ if a.default = .null then "" else " = " ++ a.default.display)
        ++ " \x7b\n" ++ Selection.indent ++ (plan.field.name
          ++ Plan.parenthesized (plan.field.arguments.map fun a => a.name ++ ": $" ++ a.name))
        ++ rest) ∧
      List.Forall₂ (fun a made =>
        (made.required = true ↔ a.type.isNullable = false ∧ a.default = .null) ∧
        (a.type.innermost.name.toList.getLast? ≠ some '!' →
          (a.type.written.toList.getLast? = some '!' ↔ a.type.isNullable = false)))
        plan.field.arguments request.attributes ∧
      ((requestLines request).filterMap memberOf?
          = ["model_config", "operation_type", "operation_name", "root_selection_keys", "document"]
            ++ request.attributes.map (·.name) ++ ["payload", "parse_result"] ∧
        ((requestLines request).filterMap memberOf?).Nodup) ∧
      ∀ default?, plan.Legible default? → ∃ operation items rest,
        request.document = Text.unlines plan.operationLines ++ rest ∧
        Executable.read (Text.unlines plan.operationLines) = some [.operation operation] ∧
        operation.variableDefinitions.map (·.name) = plan.field.arguments.map (·.name) ∧
        operation.selections = [.field none plan.field.name
          (plan.field.arguments.map fun a => (a.name, .variable a.name)) [] items] ∧
        List.Forall₂ (fun declared made => made.required = true ↔
          declared.type.isNullable = false ∧ declared.default = none)
          operation.variableDefinitions request.attributes := by
  have namelike : ∀ a ∈ (ofPlan registry plan).attributes, Namelike a.name := by
    refine namelike_distinctAttributes fun a member => ?_
    obtain ⟨value, -, rfl⟩ := List.mem_map.mp member
    exact Naming.namelike_identifierChars _
  have members := members_requestLines namelike
  have required : List.Forall₂ (fun a made => made.required = true ↔
      a.type.isNullable = false ∧ a.default = .null)
      plan.field.arguments (ofPlan registry plan).attributes :=
    forall₂_type_distinctAttributes
      (fun (a : InputValue String) (type : CodeRef String) =>
        (!type.isOptional) = true ↔ a.type.isNullable = false ∧ a.default = .null)
      requestMembers fun a _ => required_ofInput a
  refine ⟨ofPlan registry plan, requestClass_eq registry plan, ?_, ?_, ?_, ⟨members, ?_⟩, ?_⟩
  · rw [ofPlan, map_distinctAttributes fun _ _ => rfl, List.map_map]
    rfl
  · exact exists_document_eq_opening plan
  · exact required.imp fun a made iff => ⟨iff, written_ends_iff⟩
  · rw [members, ofPlan, map_name_distinctAttributes]
    exact nodup_members (by decide) _
  · intro default? legible
    refine ⟨_, _, _, rfl, read_operationLines legible, ?_, rfl, ?_⟩
    · rw [Plan.rootCall, Executable.RootCall.operation, List.map_map]
      rfl
    · rw [Plan.rootCall, Executable.RootCall.operation, List.forall₂_map_left_iff]
      refine forall₂_type_distinctAttributes
        (fun (a : InputValue String) (type : CodeRef String) => (!type.isOptional) = true ↔
          (a.type.map fun ref => Name.shown ref.name).isNullable = false ∧ default? a = none)
        requestMembers fun a member => ?_
      rw [TypeRef.isNullable_map, default_eq_none_iff (legible.arguments a member)]
      exact required_ofInput a

def survey : Plan String where
  operation := { kind := .query, type := { name := "Query", fields := [] } }
  field :=
    { name := "survey", type := .named ⟨.scalar, "Int"⟩
      arguments := [
        { name := "payload", type := .nonNull (.named ⟨.scalar, "ID"⟩) },
        { name := "hullDepth", type := .nonNull (.named ⟨.scalar, "Int"⟩), default := .string "3" },
        { name := "hull_depth", type := .named ⟨.scalar, "Int"⟩ }] }

def surveyDefault (argument : InputValue String) : Option Literal :=
  if argument.name = "hullDepth" then some (.int "3") else none

theorem legible_survey : survey.Legible surveyDefault where
  name := by decide
  arguments := by
    intro a member
    simp only [survey, List.mem_cons, List.not_mem_nil, or_false] at member
    rcases member with rfl | rfl | rfl
    · exact ⟨by decide, by decide, ⟨rfl, trivial⟩, rfl⟩
    · exact ⟨by decide, by decide, ⟨rfl, trivial⟩, nofun, .int, _, rfl, nofun, rfl⟩
    · exact ⟨by decide, by decide, trivial, rfl⟩
  operation := by decide
  roots := nofun

theorem request_variables_agree_of_survey :
    ∃ request operation, requestClass .default survey = .ok request ∧
      survey.Legible surveyDefault ∧
      Executable.read (Text.unlines survey.operationLines) = some [.operation operation] ∧
      operation.variableDefinitions.map (·.name) = ["payload", "hullDepth", "hull_depth"] ∧
      request.attributes.map (·.sourceName) = ["payload", "hullDepth", "hull_depth"] ∧
      request.attributes.map (·.required) = [true, false, false] ∧
      ((requestLines request).filterMap memberOf?).Nodup := by
  obtain ⟨request, made, sources, -, required, ⟨-, different⟩, reads⟩ :=
    request_variables_agree .default survey
  obtain ⟨operation, _, _, -, read, names, -, -⟩ := reads surveyDefault legible_survey
  refine ⟨request, operation, made, legible_survey, read, names, sources, ?_, different⟩
  have given : survey.field.arguments.map
      (fun a => decide (a.type.isNullable = false ∧ a.default = .null))
        = request.attributes.map (·.required) := by
    rw [← List.forall₂_eq_eq_eq, List.forall₂_map_left_iff, List.forall₂_map_right_iff]
    exact required.imp fun a made ⟨holds, _⟩ =>
      Bool.eq_iff_iff.mpr (decide_eq_true_iff.trans holds.symm)
  exact given.symm.trans (by decide)

end RequestModule

end GraphqlRequests
