import GraphqlRequests.Proofs.Executable.Lexing
import GraphqlRequests.Proofs.Plan.Closed
import GraphqlRequests.Proofs.Plan.Within

/-!
# Documents of plans are executable

The document of a plan reads as one operation with a variable for each argument and one field, and
the fragments of the plan after it.
-/

namespace GraphqlRequests

open Document (Closes Ends Item Lexes LineLexes LinesLex)
open Executable (RootCall Variable)
open Sdl (Literal Token)
open Sdl.Reader (bracketed)

variable {ν : Type} [Name ν]

/-! ### Operations -/

/-- The default is absent, or the text of a constant literal. -/
def InputValue.DefaultsTo (value : InputValue ν) : Option Literal → Prop
  | none => value.default = .null
  | some literal => value.default ≠ .null ∧ literal.Proper false ∧
    Ends value.default.display literal.tokens

/-- The argument can be declared as a variable with the default. -/
structure InputValue.Declares (value : InputValue ν) (default : Option Literal) : Prop where
  name : Name.Written value.name
  type : Name.Written value.type.innermost.name
  marks : value.type.Proper
  default : value.DefaultsTo default

namespace Plan

def rootCall (plan : Plan ν) (default? : InputValue ν → Option Literal) : RootCall where
  kind := plan.operation.kind
  name := plan.operationName
  definitions := plan.field.arguments.map fun a =>
    { name := Name.shown a.name
      type := a.type.map fun ref => Name.shown ref.name
      default := default? a }
  root := Name.shown plan.field.name
  arguments := plan.field.arguments.map fun a => (Name.shown a.name, .variable (Name.shown a.name))
  items := plan.rootKeys.map .spread

theorem closes_variableDefinition {a : InputValue ν} {default : Option Literal}
    (declares : a.Declares default) :
    Closes (variableDefinition a).toList (Variable.tokens
      { name := Name.shown a.name
        type := a.type.map fun ref => Name.shown ref.name
        default }) := by
  have mark : Lexes ['$'] [.mark "$"] := fun _ => rfl
  have colon : Lexes [':', ' '] [.mark ":"] := fun _ => rfl
  have typed := ((mark.append_closes (Document.closes_name declares.name.isName_shown)).append_lexes
    (.inr rfl) colon).append_closes (Document.closes_written declares.type.isName_shown)
  cases default with
  | none =>
    have absent : a.default = .null := declares.default
    simpa [variableDefinition, absent, Variable.tokens, Executable.defaultTokens] using typed
  | some literal =>
    obtain ⟨given, -, ends⟩ := declares.default
    have equals : Lexes [' ', '=', ' '] [.mark "="] := fun _ => rfl
    have whole := (typed.append_lexes (.inl rfl) equals).append_closes ends.closes
    simpa [variableDefinition, given, Variable.tokens, Executable.defaultTokens] using whole

variable {plan : Plan ν} {default? : InputValue ν → Option Literal}

theorem itemLines_spreads (keys : List String) :
    Document.itemLines (keys.map .spread) = keys.map Fragment.spread := by
  induction keys with
  | nil => simp [Document.itemLines]
  | cons key rest ih => simp [Document.itemLines, ih]

theorem named_spreads {keys : List String}
    (roots : ∀ key ∈ keys, Sdl.isName key.toList = true ∧ key ≠ "on") :
    Document.Named (keys.map .spread) := by
  induction keys with
  | nil => exact .nil
  | cons key rest ih =>
    obtain ⟨⟨named, other⟩, later⟩ := List.forall_mem_cons.mp roots
    exact .spread named other (ih later)

section Written

variable (name : Name.Written plan.field.name)
variable (arguments : ∀ a ∈ plan.field.arguments, a.Declares (default? a))

theorem bracketed_map {α β : Type} {opening close : String} {tokens : β → List Token} {f : α → β}
    {items : List α} : bracketed opening close tokens (items.map f)
      = bracketed opening close (fun a => tokens (f a)) items := by
  simp [bracketed, List.flatMap_map]

include name arguments in
theorem closes_call :
    Closes plan.call.toList (.name (Name.shown plan.field.name)
      :: bracketed "(" ")" Literal.memberTokens (plan.rootCall default?).arguments) := by
  have each : ∀ a ∈ plan.field.arguments,
      Closes (Name.shown a.name ++ ": $" ++ Name.shown a.name).toList
        (Literal.memberTokens (Name.shown a.name, .variable (Name.shown a.name))) := by
    intro a member
    have name := Document.closes_name (arguments a member).name.isName_shown
    have dollar : Lexes [':', ' ', '$'] [.mark ":", .mark "$"] := fun _ => rfl
    have whole := (name.append_lexes (.inr rfl) dollar).append_closes name
    simpa [Literal.memberTokens, Literal.tokens] using whole
  have whole := Document.closes_parenthesized each
    (Document.closes_name name.isName_shown)
  rw [rootCall, bracketed_map]
  simpa [call] using whole

variable (named : Sdl.isName plan.operationName.toList = true)
include arguments named

theorem lineLexes_operation :
    LineLexes (plan.operation.kind.keyword ++ " " ++ plan.operationName
        ++ parenthesized plan.variableDefinitions ++ " \x7b")
      (.name plan.operation.kind.keyword :: .name plan.operationName
        :: (bracketed "(" ")" Variable.tokens (plan.rootCall default?).definitions
          ++ [.mark "\x7b"])) := by
  have each : ∀ a ∈ plan.field.arguments, Closes (variableDefinition a).toList (Variable.tokens
      { name := Name.shown a.name
        type := a.type.map fun ref => Name.shown ref.name
        default := default? a }) :=
    fun a member => closes_variableDefinition (arguments a member)
  have keyword : Lexes (plan.operation.kind.keyword.toList ++ [' '])
      [.name plan.operation.kind.keyword] :=
    Document.lexes_name (by cases plan.operation.kind <;> rfl) rfl
  have ends : Lexes [' ', '{', '\n'] [.mark "\x7b"] := fun _ => rfl
  have whole := keyword.append ((Document.closes_parenthesized each
    (Document.closes_name named)).append_lexes (.inl rfl) ends)
  rw [LineLexes, rootCall, bracketed_map]
  simpa [variableDefinitions] using whole

variable (roots : ∀ key ∈ plan.rootKeys, Sdl.isName key.toList = true ∧ key ≠ "on")
include name roots

theorem linesLex_operationLines :
    LinesLex plan.operationLines (plan.rootCall default?).tokens := by
  have first := lineLexes_operation arguments named
  have last := LinesLex.single Document.lineLexes_close
  have call := closes_call name arguments
  by_cases none : plan.rootKeys = []
  · have root : LineLexes plan.call _ := call.append_lexes (.inl rfl) Document.lexes_break
    have whole := LinesLex.cons first (.cons root.indent last)
    simpa [operationLines, none, RootCall.tokens, rootCall, Executable.fieldTokens, bracketed]
      using whole
  · have ends : Lexes [' ', '{', '\n'] [.mark "\x7b"] := fun _ => rfl
    have root : LineLexes (plan.call ++ " \x7b") (.name (Name.shown plan.field.name)
        :: bracketed "(" ")" Literal.memberTokens (plan.rootCall default?).arguments
          ++ [.mark "\x7b"]) := by
      have opens := call.append_lexes (.inl rfl) ends
      simpa [LineLexes] using opens
    have spreads := (Document.linesLex_items (named_spreads roots)).indent.indent
    rw [itemLines_spreads, Executable.itemTokens_eq] at spreads
    have whole := LinesLex.cons first (.cons root.indent
      ((spreads.append (.cons Document.lineLexes_close.indent .nil)).append last))
    simpa [operationLines, none, RootCall.tokens, rootCall, Executable.fieldTokens, bracketed,
      String.append_assoc, Function.comp_def] using whole

variable {definitions : List Document.Definition}

theorem read_document (fragments : plan.fragments = definitions.map (·.entry))
    (defined : ∀ d ∈ definitions, d.Named ∧ Executable.ReadableFragment d) :
    Executable.read plan.document = some (.operation (plan.rootCall default?).operation
      :: definitions.map fun d => .fragment (.ofDefinition d)) := by
  have lines := (linesLex_operationLines name arguments named roots).append
    (Document.linesLex_definitions fun d member => (defined d member).1)
  have tokens := Document.tokens?_unlines lines (by simp [operationLines])
  rw [← document_eq_unlines fragments] at tokens
  refine Executable.read_of_tokens? tokens ⟨?_, ?_, ?_⟩ fun d member => (defined d member).2
  · intro v member
    obtain ⟨a, given, rfl⟩ := List.mem_map.mp member
    have declares := arguments a given
    refine ⟨(TypeRef.proper_map _).mpr declares.marks, fun literal default => ?_, rfl⟩
    have written : a.DefaultsTo (some literal) := default ▸ declares.default
    exact written.2.1
  · intro argument member
    obtain ⟨a, -, rfl⟩ := List.mem_map.mp member
    exact .var rfl
  · intro item member
    obtain ⟨key, root, rfl⟩ := List.mem_map.mp member
    exact .spread (roots key root).2

end Written

end Plan

/-! ### The fragments of a plan -/

variable [DecidableEq ν]
variable {config : Config} {schema : Schema ν} {operation : Operation ν} {field : Field ν}
variable {root object : ObjectType ν} {plan : Plan ν} {default? : InputValue ν → Option Literal}

theorem Config.selectedFields_ne_nil (declared : object.Proper schema) {selection : Selection ν}
    (made : config.selection object = .ok selection) (nonempty : object.fields ≠ []) :
    config.selectedFields object ≠ [] := by
  have known : config.unknownFields object = [] := by
    rw [selection_eq fun field member => declared.isKey member] at made
    by_contra unknown
    rw [if_neg unknown] at made
    cases made
  rw [selectedFields]
  rcases requested : config.selectionFor (Name.text object.name) with _ | _ | ⟨name, names⟩
  · exact nonempty
  · exact nonempty
  · have first : Name.ofText name ∈ object.fieldNames := by
      rw [unknownFields, requested] at known
      by_contra unknown
      have listed := List.filter_eq_nil_iff.mp known name List.mem_cons_self
      simp [unknown] at listed
    obtain ⟨field, member, named⟩ := List.mem_map.mp first
    refine List.ne_nil_of_mem (List.mem_filter.mpr ⟨member, ?_⟩)
    simp [named]

/-- A field of an object type, as it is read in the fragment for this type. -/
def Field.selection (schema : Schema ν) (field : Field ν) : Executable.Selection :=
  .field none (Name.shown field.name) [] [] <| match schema.returned? field with
    | none => []
    | some next => [.spread (Fragment.key (Name.shown next.name)) []]

variable (proper : schema.Proper) (declared : object.Proper schema)
variable (fine : ∀ field ∈ object.fields, schema.offends field = false)
include proper declared fine

theorem ofItem_item (member : field ∈ object.fields) :
    Executable.Selection.ofItem (Config.item field) = field.selection schema := by
  rw [item_eq proper declared member (fine field member), Field.selection]
  cases schema.returned? field <;> rfl

theorem readable_definition (some : config.selectedFields object ≠ []) :
    Executable.ReadableFragment (config.definition object) where
  key := key_ne_on _
  nonempty := mt List.map_eq_nil_iff.mp some
  items := by
    intro item member
    obtain ⟨field, selected, rfl⟩ := List.mem_map.mp member
    have inside := Config.mem_of_mem_selectedFields selected
    rw [item_eq proper declared inside (fine field inside)]
    cases schema.returned? field with
    | none => exact .leaf
    | some next =>
      refine .nested (List.cons_ne_nil _ _) fun item here => ?_
      rw [List.mem_singleton.mp here]
      exact .spread (key_ne_on _)

theorem ofDefinition_definition : Executable.Fragment.ofDefinition (config.definition object)
    = { key := Fragment.key (Name.shown object.name), type := Name.shown object.name
        selections := (config.selectedFields object).map (Field.selection schema) } := by
  have each : (config.selectedFields object).map (fun field => .ofItem (Config.item field))
      = (config.selectedFields object).map (Field.selection schema) :=
    List.map_congr_left fun field selected =>
      ofItem_item proper declared fine (Config.mem_of_mem_selectedFields selected)
  rw [Executable.Fragment.ofDefinition, Config.definition, List.map_map, ← each]
  rfl

omit declared fine in
theorem Config.Planned.exists_selection (planned : config.Planned schema operation field root plan)
    (reached : schema.Reaches field object) :
    ∃ selection, config.selection object = .ok selection := by
  have named := (reached.declared proper).named
  obtain ⟨selection, -, selected, -⟩ := planned.exists_fragment reached
    (by rw [named.text_eq_shown, named.ofText_shown])
  exact ⟨selection, selected⟩

omit proper declared fine

theorem Config.Planned.read_document (planned : config.Planned schema operation field root plan)
    (proper : schema.Proper) (returned : schema.returned? field = some root)
    (nonempty : ∀ object, schema.Reaches field object →
      Fragment.key (Name.shown object.name) ∈ plan.fragments.keys → object.fields ≠ [])
    (named : Sdl.isName plan.operationName.toList = true) (name : Name.Written field.name)
    (arguments : ∀ a ∈ field.arguments, a.Declares (default? a)) :
    ∃ objects : List (ObjectType ν), (∀ object ∈ objects, schema.Reaches field object) ∧
      plan.fragments.keys = objects.map (fun object => Fragment.key (Name.shown object.name)) ∧
      Executable.read plan.document = some (.operation (plan.rootCall default?).operation
        :: objects.map fun object => .fragment
          { key := Fragment.key (Name.shown object.name), type := Name.shown object.name
            selections := (config.selectedFields object).map (Field.selection schema) }) := by
  obtain ⟨objects, fragments, all, -, -⟩ := planned.fragments_eq proper returned
  have reached : ∀ object ∈ objects, schema.Reaches field object :=
    fun object member => ((all object).mp member).reaches returned
  have keys : plan.fragments.keys
      = objects.map (fun object => Fragment.key (Name.shown object.name)) := by
    rw [fragments, Fragment.Table.keys, List.map_map]
    rfl
  have entries : plan.fragments = (objects.map config.definition).map (·.entry) := by
    rw [fragments, List.map_map]
    rfl
  have roots : ∀ key ∈ plan.rootKeys, Sdl.isName key.toList = true ∧ key ≠ "on" := by
    intro key member
    rw [planned.rootKeys, List.mem_singleton] at member
    rw [member]
    exact ⟨(planned.definition_named proper (.start returned)).key, key_ne_on _⟩
  -- A fragment can be read back only where it selects something.
  have defined : ∀ d ∈ objects.map config.definition,
      d.Named ∧ Executable.ReadableFragment d := by
    intro d member
    obtain ⟨object, listed, rfl⟩ := List.mem_map.mp member
    have here := reached object listed
    have declared := here.declared proper
    obtain ⟨selection, made⟩ := planned.exists_selection proper here
    have some := nonempty object here (by rw [keys]; exact List.mem_map_of_mem listed)
    exact ⟨planned.definition_named proper here, readable_definition proper declared
      (here.fine planned.reachable) (Config.selectedFields_ne_nil declared made some)⟩
  obtain rfl := planned.field_eq
  refine ⟨objects, reached, keys, ?_⟩
  rw [Plan.read_document name arguments named roots entries defined, List.map_map]
  refine congrArg (fun fragments => some (_ :: fragments))
    (List.map_congr_left fun object listed => ?_)
  have here := reached object listed
  rw [Function.comp_apply, ofDefinition_definition proper (here.declared proper)
    (here.fine planned.reachable)]

/-- The document of a planned field reads as one operation and the fragments of the plan. The
operation has a variable for each argument, with the argument's type and default, and one field,
which takes its arguments from the variables and holds the spreads of the root keys, if any. Each
fragment has the selected fields of its object type, those that return an object type around the
spread of that type's fragment. -/
theorem Config.document_reads_back
    (planned : config.planField schema operation field = .ok plan)
    (declared : ∀ object, schema.Reaches field object → object.Proper schema)
    (nonempty : ∀ object, schema.Reaches field object →
      Fragment.key (Name.shown object.name) ∈ plan.fragments.keys → object.fields ≠ [])
    (named : Sdl.isName plan.operationName.toList = true) (name : Name.Written field.name)
    (arguments : ∀ a ∈ field.arguments, a.Declares (default? a)) :
    ∃ objects : List (ObjectType ν), (∀ object ∈ objects, schema.Reaches field object) ∧
      plan.fragments.keys = objects.map (fun object => Fragment.key (Name.shown object.name)) ∧
      Executable.read plan.document = some (
        .operation
          { kind := operation.kind
            name := some plan.operationName
            variableDefinitions := field.arguments.map fun a =>
              { name := Name.shown a.name
                type := a.type.map fun ref => Name.shown ref.name
                default := default? a }
            selections := [.field none (Name.shown field.name)
              (field.arguments.map fun a => (Name.shown a.name, .variable (Name.shown a.name))) []
              (plan.rootKeys.map fun key => .spread key [])] }
        :: objects.map fun object => .fragment
          { key := Fragment.key (Name.shown object.name)
            type := Name.shown object.name
            selections := (config.selectedFields object).map (Field.selection schema) }) := by
  have spreads : (plan.rootKeys.map Item.spread).map Executable.Selection.ofItem
      = plan.rootKeys.map fun key => .spread key [] := by
    rw [List.map_map]
    rfl
  cases returned : schema.returned? field with
  | none =>
    rw [planField_eq, returned] at planned
    obtain ⟨map, -, planned⟩ := bind_ok planned
    obtain rfl := Except.ok.inj planned
    have read := Plan.read_document name arguments named nofun (List.map_nil).symm nofun
    exact ⟨[], nofun, rfl, read⟩
  | some root =>
    -- The field is planned in the part of the schema that it reaches, which is proper as a whole.
    have within := Schema.within_reachedPart schema field
    have fine := Schema.fine_reachedPart (fine_of_planField_ok planned)
    have here := (within.returned?_eq (fine field (.inl rfl))).symm.trans returned
    have parts := (planField_ok here).mp (planField_reachedPart declared planned)
    have proper := Schema.proper_reachedPart declared
    obtain ⟨objects, reached, keys, read⟩ := parts.read_document proper here
      (fun object below => nonempty object (within.reaches below)) named name arguments
    refine ⟨objects, fun object listed => within.reaches (reached object listed), keys, ?_⟩
    have selections : ∀ object ∈ objects,
        (config.selectedFields object).map (Field.selection (schema.reachedPart field))
          = (config.selectedFields object).map (Field.selection schema) := by
      intro object listed
      refine List.map_congr_left fun inner selected => ?_
      have inside := mem_of_mem_selectedFields selected
      have fine := fine inner (.inr ⟨object, reached object listed, inside⟩)
      rw [Field.selection, Field.selection, within.returned?_eq fine]
    rw [read, Plan.rootCall, Executable.RootCall.operation, spreads, parts.operation_eq,
      parts.field_eq]
    refine congrArg (fun fragments => some (_ :: fragments))
      (List.map_congr_left fun object listed => ?_)
    rw [selections object listed]

namespace Fleet

def choice : Field String :=
  { heroField with
    arguments := [
      { name := "among", type := .nonNull (.list (.nonNull (.named ⟨.scalar, "ID"⟩)))
        default := .string "[1, \"b\"]" },
      { name := "rank", type := .named ⟨.enum, "Rank"⟩ }] }

def choiceDefault (argument : InputValue String) : Option Literal :=
  if argument.name = "among" then some (.list [.int "1", .string "b" false]) else none

theorem declares_choice : ∀ a ∈ choice.arguments, a.Declares (choiceDefault a) := by
  intro a member
  simp only [choice, List.mem_cons, List.not_mem_nil, or_false] at member
  have constant : Literal.Proper false (.list [.int "1", .string "b" false]) := by
    refine .list fun item inside => ?_
    simp only [List.mem_cons, List.not_mem_nil, or_false] at inside
    rcases inside with rfl | rfl
    · exact .int
    · exact .string
  rcases member with rfl | rfl
  · exact ⟨by decide, by decide, ⟨rfl, rfl, trivial⟩, nofun, constant, _, rfl, nofun, rfl⟩
  · exact ⟨by decide, by decide, trivial, rfl⟩

theorem fields_ne_nil {start : Field String} {object : ObjectType String}
    (reached : fleet.Reaches start object) : object.fields ≠ [] := by
  obtain ⟨type, found, whole⟩ := Schema.object?_eq_some.mp reached.found
  have member := Schema.mem_of_type? found
  simp only [fleet, List.mem_cons, List.not_mem_nil, or_false] at member
  rcases member with rfl | rfl | rfl | rfl | rfl <;> cases whole
  all_goals exact List.cons_ne_nil _ _

end Fleet

open Fleet in
theorem Config.document_reads_back_of_arguments :
    (∀ object, fleet.Reaches choice object → object.Proper fleet ∧ object.fields ≠ []) ∧
    Name.Written choice.name ∧ (∀ a ∈ choice.arguments, a.Declares (choiceDefault a)) ∧
    ∃ plan, pilots.planField fleet query choice = .ok plan ∧
      Sdl.isName plan.operationName.toList = true ∧
      Executable.read plan.document = some [
        .operation
          { kind := .query
            name := some "HeroQuery"
            variableDefinitions := [
              { name := "among", type := .nonNull (.list (.nonNull (.named "ID")))
                default := some (.list [.int "1", .string "b" false]) },
              { name := "rank", type := .named "Rank" }]
            selections := [.field none "hero"
              [("among", .variable "among"), ("rank", .variable "rank")] []
              [.spread "HeroFragment" []]] },
        .fragment
          { key := "HeroFragment", type := "Hero"
            selections := [.field none "name" [] [] [],
              .field none "ships" [] [] [.spread "ShipFragment" []]] },
        .fragment
          { key := "ShipFragment", type := "Ship"
            selections := [.field none "pilot" [] [] [.spread "HeroFragment" []]] }] := by
  obtain ⟨plan, planned, keys, -⟩ := exists_plan_with choice.arguments
  have declared : ∀ object, fleet.Reaches choice object → object.Proper fleet :=
    fun _ reached => reached.declared fleet_proper
  have returned : fleet.returned? choice = some hero := rfl
  have parts := (Config.planField_ok returned).mp planned
  have operation : plan.operationName = "HeroQuery" := by
    rw [Plan.operationName, parts.operation_eq, parts.field_eq]
    decide
  have named : Sdl.isName plan.operationName.toList = true := by rw [operation]; decide
  obtain ⟨objects, reached, same, read⟩ := Config.document_reads_back planned declared
    (fun _ reached _ => fields_ne_nil reached) named (by decide) declares_choice
  refine ⟨fun object reached => ⟨declared object reached, fields_ne_nil reached⟩, by decide,
    declares_choice, plan, planned, named, ?_⟩
  have names : objects.map (·.name) = ["Hero", "Ship"] := by
    apply List.map_injective_iff.mpr key_injective
    rw [List.map_map]
    exact same.symm.trans keys
  have found : objects.map some = ["Hero", "Ship"].map fleet.object? := by
    rw [← names, List.map_map]
    exact List.map_congr_left fun object listed => (reached object listed).found.symm
  obtain rfl : objects = [hero, ship] :=
    List.map_injective_iff.mpr (Option.some_injective _) found
  rw [read, operation, parts.rootKeys]
  rfl

end GraphqlRequests
