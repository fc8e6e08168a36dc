import GraphqlRequests.Proofs.RequestModule.Spelling
import GraphqlRequests.Proofs.Scalar.Spelling
import GraphqlRequests.Proofs.Source.Verdict

/-!
# When the text of a module is a module

The lines of a class hold statements where it has a legal name and, if it is an enum, a member or a
docstring, and keep the text from being a module where it has not. All other lines hold statements.
-/

namespace GraphqlRequests

open Source

/-- There is something below the first line of the class: a docstring or a member. -/
def EnumClass.HasBody (enum : EnumClass) : Prop :=
  enum.members ≠ [] ∨ (RequestModule.described enum.description).isSome = true

namespace RequestModule

/-! ### Docstrings -/

theorem line_docstringLine (text : String) : Line 4 (docstringLine (Text.docstring text)) :=
  line_docstring text (by simp [docstringLine])

theorem below_docstringLines {description : Json} {lines : List String}
    (below : described description = none → HoldsBelow [] 4 lines) (holds : Holds [4] lines) :
    HoldsBelow [] 4 (docstringLines description ++ lines) := by
  rw [docstringLines]
  cases found : described description with
  | none => exact below found
  | some text => exact (line_docstringLine text).below (by decide) (by decide) holds.empty

/-! ### Enums -/

theorem holds_memberLines {members : List EnumMember} (legal : ∀ m ∈ members, isName m.name = true) :
    Holds [4] (members.flatMap fun member => commentLines member.description
      ++ ["    " ++ member.name ++ " = " ++ Text.quoted member.value]) :=
  Holds.flatMap fun member listed =>
    (silent_commentLines _).holds.append ((line_member (legal member listed)).holds rfl)

theorem startsClass_enum (name : String) : StartsClass ("class " ++ name ++ "(str, _enum.Enum):") name
    [.word "str"] [[.word "_enum", .symbol ".", .word "Enum"]] where
  bases := by
    have str : Phrase [.word "str"] 0 .name := phrase_word (by decide)
    have enum : Phrase [.word "_enum"] 0 .name := phrase_word (by decide)
    exact List.forall_mem_cons.mpr ⟨.positional str,
      List.forall_mem_singleton.mpr (.positional (enum.field (by decide)))⟩
  chars := by simp [spaced, Lexeme.chars]

theorem decides_enumLines {enum : EnumClass} (wordlike : Wordlike enum.name)
    (legal : ∀ m ∈ enum.members, isName m.name = true) :
    Decides (enumLines enum) (isName enum.name = true ∧ enum.HasBody) := by
  obtain ⟨name, members, description⟩ := enum
  have starts := startsClass_enum name
  have blank : Decides ["", ""] True := .of_silent (silent_empty.append silent_empty)
  have shown : enumLines ⟨name, members, description⟩ = ["", ""]
      ++ ("class " ++ name ++ "(str, _enum.Enum):") :: (docstringLines description
        ++ members.flatMap fun member => commentLines member.description
          ++ ["    " ++ member.name ++ " = " ++ Text.quoted member.value]) := by
    simp [enumLines]
  rw [shown]
  by_cases body : EnumClass.HasBody ⟨name, members, description⟩
  · refine (blank.append (starts.decides wordlike (below_docstringLines (fun none => ?_)
      (holds_memberLines legal)))).congr (by simp [body])
    cases members with
    | nil => simp [EnumClass.HasBody, none] at body
    | cons member members =>
      obtain ⟨here, later⟩ := List.forall_mem_cons.mp legal
      rw [List.flatMap_cons, List.append_assoc]
      exact (silent_commentLines _).below
        ((line_member here).below (by decide) (by decide) (holds_memberLines later))
  · obtain ⟨none, rfl⟩ : described description = none ∧ members = [] := by
      simpa [EnumClass.HasBody, and_comm] using body
    rw [docstringLines, none]
    exact (blank.append (starts.decides_empty wordlike)).congr (by simp [body])

/-! ### Classes of attributes -/

theorem startsClass_model (name : String) :
    StartsClass (classLine name) name [.word "_pydantic", .symbol ".", .word "BaseModel"] [] where
  bases := by
    have pydantic : Phrase [.word "_pydantic"] 0 .name := phrase_word (by decide)
    exact List.forall_mem_singleton.mpr (.positional (pydantic.field (by decide)))
  chars := by simp [classLine, spaced, Lexeme.chars]

theorem decides_modelLines {model : ModelClass} (wordlike : Wordlike model.name)
    (legal : ∀ a ∈ model.attributes, Legal a) :
    Decides (modelLines model) (isName model.name = true) := by
  have blank : Decides ["", ""] True := .of_silent (silent_empty.append silent_empty)
  have attributes := holds_attributeBlock legal
  have below : HoldsBelow [] 4 (docstringLines model.description
      ++ configLine :: attributeBlock model.attributes) :=
    below_docstringLines (fun _ => line_config.below (by decide) (by decide) attributes)
      (attributes.cons line_config rfl)
  have shown : modelLines model = ["", ""] ++ classLine model.name
      :: (docstringLines model.description ++ configLine :: attributeBlock model.attributes) := by
    simp [modelLines]
  rw [shown]
  exact (blank.append ((startsClass_model model.name).decides wordlike below)).congr (by simp)

/-! ### Request classes -/

/-- All but the name of the request class is fit to stand in a module. -/
structure LegalRequest (request : RequestClass) : Prop where
  field : isWordText request.field.toList = true
  result : Expresses request.result.written 199
  attributes : ∀ a ∈ request.attributes, Legal a

theorem line_requestDocstring {request : RequestClass}
    (field : isWordText request.field.toList = true) :
    Line 4 (docstringLine (requestDocstring request)) := by
  rw [requestDocstring]
  split
  · exact line_docstringLine _
  · have plain : ∀ other, inWord other = false → other ∉ request.field.toList :=
      fun _ outside => notMem_of_isWordText field outside
    have summary : requestSummary request = "Request for the \x60" ++ request.field ++ "\x60 "
        ++ request.operation.keyword ++ " field." := rfl
    have quote : '"' ∉ (requestSummary request).toList := by
      rw [summary]
      cases request.operation <;> simp [OperationKind.keyword, plain '"' rfl]
    have slash : '\\' ∉ (requestSummary request).toList := by
      rw [summary]
      cases request.operation <;> simp [OperationKind.keyword, plain '\\' rfl]
    have escaped : Text.docstring (requestSummary request) = requestSummary request := by
      rw [Text.docstring, docstringChars_eq_self quote slash, String.ofList_toList]
    rw [← escaped]
    exact line_docstringLine _

theorem line_classVar {line type value : String} (name : String) (legal : isName name = true)
    (typed : Expresses type 199) (expresses : Expresses value Literal.mostBrackets)
    (chars : line.toList = ("    " ++ name ++ ": ClassVar[" ++ type ++ "] = " ++ value).toList) :
    Line 4 line := by
  have classVar : Expresses "ClassVar" (199 + 1) := expresses_name (by decide)
  refine line_annotated legal (classVar.index type [] (by simpa using typed)) expresses ?_
  rw [chars]
  simp [Text.join]

theorem holds_classVars (request : RequestClass) : Holds [4]
    ["    operation_type: ClassVar[str] = " ++ Text.quoted request.operation.keyword,
      "    operation_name: ClassVar[str] = " ++ Text.quoted request.operationName,
      "    root_selection_keys: ClassVar[_typing.FrozenSet[str]] = frozenset("
        ++ Text.quotedList request.rootKeys ++ ")",
      "    document: ClassVar[str] = " ++ Text.quoted request.document] := by
  have str : ∀ {depth : Nat}, Expresses "str" depth := expresses_name (by decide)
  have frozenSet : Expresses ("_typing" ++ "." ++ "FrozenSet") (198 + 1) :=
    (expresses_name (by decide)).field (by decide)
  have keys : Expresses (Text.quotedList request.rootKeys) (198 + 1) := expresses_quotedList _
  have frozen : Expresses "frozenset" (199 + 1) := expresses_name (by decide)
  refine .cons (line_classVar "operation_type" (by decide) str
    (expresses_quoted request.operation.keyword) (by simp)) rfl ?_
  refine .cons (line_classVar "operation_name" (by decide) str
    (expresses_quoted request.operationName) (by simp)) rfl ?_
  refine .cons (line_classVar "root_selection_keys" (by decide)
    (frozenSet.index "str" [] (by simpa using str))
    (frozen.call [Text.quotedList request.rootKeys] (by simpa using .positional keys))
    (by simp [Text.join])) rfl ?_
  exact (line_classVar "document" (by decide) str (expresses_quoted request.document) (by simp)).holds rfl

theorem decides_requestLines {request : RequestClass} (wordlike : Wordlike request.name)
    (legal : LegalRequest request) :
    Decides (requestLines request) (isName request.name = true) := by
  have blank : Decides ["", ""] True := .of_silent (silent_empty.append silent_empty)
  have members := ((holds_attributeBlock legal.attributes).append holds_payload.empty).append
    (holds_parseResult legal.result).empty
  have body := (((holds_classVars request).append members).empty.cons line_config rfl).empty
  have below := (line_requestDocstring legal.field).below (by decide) (by decide) body
  have decided := (startsClass_model request.name).decides wordlike below
  have whole := blank.append decided
  rw [requestLines]
  simpa only [List.cons_append, List.nil_append, List.append_assoc, true_and] using whole

/-! ### The parts of a module -/

theorem decides_part {α : Type} {title : String} {lines : α → List String} {items : List α}
    {fits : α → Prop} (oneLine : '\n' ∉ title.toList) (plain : '\r' ∉ title.toList)
    (each : ∀ item ∈ items, Decides (lines item) (fits item)) :
    Decides (part title lines items) (∀ item ∈ items, fits item) := by
  have comment : Silent ["# " ++ title] := by
    have chars : ("# " ++ title).toList = List.replicate 0 ' ' ++ '#' :: ' ' :: title.toList := by simp
    exact silent_comment chars (by simpa using oneLine) (by simpa using plain)
  have head : Decides ["", "", "# " ++ title] True :=
    .of_silent (silent_empty.append (silent_empty.append comment))
  rw [part]
  split
  · next none =>
    rw [List.isEmpty_iff.mp none]
    exact (Decides.of_silent silent_nil).congr (by simp)
  · exact (head.append (.flatMap each)).congr (by simp)

theorem line_fromImport {line : String} (first second : String) (legal : isName first = true)
    (other : isName second = true)
    (chars : line.toList = ("from " ++ first ++ " import " ++ second).toList) : Line 0 line := by
  obtain ⟨isWord, outside⟩ := isName_iff.mp legal
  obtain ⟨isWord', outside'⟩ := isName_iff.mp other
  have keyword : ∀ text ∈ ["from", "import"], Spells [.word text] Literal.mostBrackets := by
    have words : ∀ text ∈ ["from", "import"], isWordText text.toList = true := by decide
    exact fun text listed => .word (words text listed)
  have spells := (keyword "from" (by decide)).separated ((Spells.word isWord).separated
    ((keyword "import" (by decide)).separated (.word isWord')))
  refine ⟨_, logical_of_toList ?_ rfl spells, ?_⟩
  · simp [chars, Lexeme.chars]
  · exact isStatement_fromImport outside outside'

def openingText : String :=
  "Generated GraphQL requests.\n\nDo not edit this file; regenerate it with gql-specgen instead.\n"

theorem logical_opening : Logical 0 ["\"\"\"Generated GraphQL requests.", "",
      "Do not edit this file; regenerate it with gql-specgen instead.", "\"\"\""]
    [.literal (tripleQuoted (Text.docstringChars openingText.toList))] where
  chars := by
    rw [charsOf_eq (by simp), docstringChars_eq_self (by simp [openingText]) (by simp [openingText])]
    simp [openingText, tripleQuoted, Lexeme.chars]
  starts := rfl
  legal := by
    simp only [List.mem_singleton, forall_eq]
    exact legal_docstringChars (by simp [openingText])
  apart := .singleton _
  closed := rfl

theorem holds_opening : Holds [] opening := by
  have docstring : Holds [] _ :=
    logical_opening.holds rfl (isStatement_expression heads_text fun pattern => by cases pattern)
  have imported : Line 0 "from __future__ import annotations" :=
    line_fromImport "__future__" "annotations" (by decide) (by decide) (by simp)
  exact docstring.append ((Holds.cons imported rfl silent_nil.holds.empty).empty)

theorem flush_opening (more : List String) : Flush (opening ++ more) := by
  have chars : "\"\"\"Generated GraphQL requests.".toList
      = '"' :: "\"\"Generated GraphQL requests.".toList := by simp
  exact .cons chars (by decide)

variable {module : RequestModule}

theorem holds_importLines (legal : ∀ source ∈ module.sources, isDotted source.toList = true) :
    Holds [] module.importLines := by
  have imported : ∀ line ∈ Text.sorted (["import enum as _enum", "import typing as _typing"]
      ++ module.sources.map ScalarMapping.importOf), Line 0 line := by
    intro line member
    rw [Text.mem_sorted, List.mem_append] at member
    have fixed : ∀ path ∈ ["enum", "typing"], Line 0 (ScalarMapping.importOf path) := by
      have dotted : ∀ path ∈ ["enum", "typing"], isDotted path.toList = true := by decide
      exact fun path listed => line_importOf (dotted path listed)
    rcases member with standard | scalar
    · have listed : line ∈ ["enum", "typing"].map ScalarMapping.importOf := standard
      obtain ⟨path, inside, rfl⟩ := List.mem_map.mp listed
      exact fixed path inside
    · obtain ⟨source, inside, rfl⟩ := List.mem_map.mp scalar
      exact line_importOf (legal source inside)
  have classVar : Line 0 "from typing import ClassVar" :=
    line_fromImport "typing" "ClassVar" (by decide) (by decide) (by simp)
  have pydantic : Line 0 (ScalarMapping.importOf "pydantic") := line_importOf (by decide)
  exact (Holds.of_lines imported rfl).append ((pydantic.holds rfl).empty.cons classVar rfl)

theorem line_rebuild {name : String} (legal : isName name = true) :
    Line 0 (name ++ ".model_rebuild()") := by
  have rebuild : Phrase [.word name] Literal.mostBrackets .name := phrase_word legal
  have called := (rebuild.field (by decide : isName "model_rebuild" = true)).callEmpty
  refine ⟨_, logical_of_toList ?_ rfl called.toSpells, isStatement_expression called.heads fun _ => ?_⟩
  · simp [Lexeme.chars]
  · exact ⟨".", by decide, _, rfl⟩

/-! ### The text -/

/-- The names in the module are words, but for digits in front of class names, and all but the
names of classes are identifiers. -/
structure Spelled (module : RequestModule) : Prop where
  sources : ∀ source ∈ module.sources, isDotted source.toList = true
  enums : ∀ enum ∈ module.enums, Wordlike enum.name ∧ ∀ m ∈ enum.members, isName m.name = true
  inputs : ∀ input ∈ module.inputs, Wordlike input.name ∧ ∀ a ∈ input.attributes, Legal a
  models : ∀ model ∈ module.models, Wordlike model.name ∧ ∀ a ∈ model.attributes, Legal a
  requests : ∀ request ∈ module.requests, Wordlike request.name ∧ LegalRequest request

theorem Spelled.wordlike (spelled : module.Spelled) : ∀ name ∈ module.rebuilt, Wordlike name := by
  intro name listed
  simp only [rebuilt, List.mem_append, List.mem_map] at listed
  rcases listed with (⟨input, member, rfl⟩ | ⟨model, member, rfl⟩) | ⟨request, member, rfl⟩
  · exact (spelled.inputs input member).1
  · exact (spelled.models model member).1
  · exact (spelled.requests request member).1

theorem flush_rebuilds {names : List String} (wordlike : ∀ name ∈ names, Wordlike name)
    {more : List String} (flush : Flush more) : Flush ((if names = [] then []
      else "" :: "" :: names.map (· ++ ".model_rebuild()")) ++ more) := by
  cases names with
  | nil => exact flush
  | cons name names =>
    rw [if_neg (List.cons_ne_nil _ _)]
    have blank : Silent ["", ""] := silent_empty.append silent_empty
    have line := (wordlike name List.mem_cons_self).flush ".model_rebuild()"
      (names.map (· ++ ".model_rebuild()") ++ more)
    have below := line.silent blank
    exact below

theorem holds_rebuilds {names : List String} (legal : ∀ name ∈ names, isName name = true) :
    Holds [] (if names = [] then [] else "" :: "" :: names.map (· ++ ".model_rebuild()")) := by
  split
  · exact silent_nil.holds
  · refine (Holds.of_lines ?_ rfl).empty.empty
    exact List.forall_mem_map.mpr fun name listed => line_rebuild (legal name listed)

theorem decides_textLines (spelled : module.Spelled) : Decides module.textLines
    ((∀ enum ∈ module.enums, isName enum.name = true ∧ enum.HasBody) ∧
      ∀ name ∈ module.rebuilt, isName name = true) := by
  have front : Decides (opening ++ module.importLines) True := {
    holds := fun _ => holds_opening.append (holds_importLines spelled.sources)
    refused := fun none => absurd trivial none
    flush := fun more _ => by
      rw [List.append_assoc]
      exact flush_opening _ }
  have enums : Decides (part "Enums" enumLines module.enums) _ :=
    decides_part (by simp) (by simp) fun enum member =>
      decides_enumLines (spelled.enums enum member).1 (spelled.enums enum member).2
  have inputs : Decides (part "Input objects" modelLines module.inputs) _ :=
    decides_part (by simp) (by simp) fun input member =>
      decides_modelLines (spelled.inputs input member).1 (spelled.inputs input member).2
  have models : Decides (part "Response models" modelLines module.models) _ :=
    decides_part (by simp) (by simp) fun model member =>
      decides_modelLines (spelled.models model member).1 (spelled.models model member).2
  have requests : Decides (part "Requests" requestLines module.requests) _ :=
    decides_part (by simp) (by simp) fun request member =>
      decides_requestLines (spelled.requests request member).1 (spelled.requests request member).2
  have classes := (((front.append enums).append inputs).append models).append requests
  refine Decides.extend (classes.congr ?_) (fun good => holds_rebuilds good.2)
    fun _ flush => flush_rebuilds spelled.wordlike flush
  simp [rebuilt, or_imp, forall_and, and_assoc]

end RequestModule

end GraphqlRequests
