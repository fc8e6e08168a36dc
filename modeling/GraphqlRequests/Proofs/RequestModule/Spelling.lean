import GraphqlRequests.Proofs.Naming.Identifiers
import GraphqlRequests.Proofs.RequestModule.Closed
import GraphqlRequests.Proofs.Source.Lines
import GraphqlRequests.Proofs.Text.Comment

/-!
# How the parts of a module are spelled

Annotations, attributes, members and methods are legal lines, whatever their descriptions and values
are, where attributes and members have identifiers for names and annotations are made of them.
-/

namespace GraphqlRequests

open Source

/-! ### Annotations -/

namespace CodeRef

/-- The layers around the innermost type; each stands between brackets. -/
def layers {α : Type} : CodeRef α → Nat
  | .named _ => 0
  | .list item => item.layers + 1
  | .optional inner => inner.layers + 1

theorem expresses_written {type : CodeRef String} (inner : Expresses type.innermost 0) :
    Expresses type.written type.layers := by
  have typing : ∀ {depth : Nat} {text : String} (word : String), isName word = true →
      Expresses text depth → Expresses ("_typing." ++ word ++ "[" ++ text ++ "]") (depth + 1) := by
    intro depth text word legal expresses
    have module : Expresses "_typing" (depth + 1) := expresses_name (by decide)
    exact (module.field legal).index text [] (by simpa using expresses)
  induction type with
  | named text => exact inner
  | list item ih => exact typing "List" (by decide) (ih inner)
  | optional item ih => exact typing "Optional" (by decide) (ih inner)

end CodeRef

/-! ### Comments -/

namespace RequestModule

theorem silent_commentLines (description : Json) : Silent (commentLines description) := by
  rw [commentLines]
  cases described description with
  | none => exact silent_nil
  | some text =>
    have chars : ("    # " ++ Text.comment text).toList
        = List.replicate 4 ' ' ++ '#' :: (' ' :: (Text.comment text).toList) := by simp
    have other : ∀ c, Text.isSpace c = true → c ≠ ' ' → c ∉ ' ' :: (Text.comment text).toList := by
      intro c space blank member
      rcases List.mem_cons.mp member with same | inside
      · exact blank same
      · exact blank ((Text.oneLine_comment text).blanks c inside space)
    exact silent_comment chars (other _ (by decide) (by decide)) (other _ (by decide) (by decide))

/-! ### Attributes and members -/

structure Legal (a : Attribute) : Prop where
  name : isName a.name = true
  type : Expresses a.type.written Literal.mostBrackets

theorem line_attribute {a : Attribute} (legal : Legal a) {line : String}
    (written : line = "    " ++ a.name ++ ": " ++ a.type.written ++ " = _pydantic.Field("
      ++ (if a.required then "" else "default=None, ") ++ "alias=" ++ Text.quoted a.sourceName ++ ")") :
    Line 4 line := by
  have field : Expresses ("_pydantic" ++ "." ++ "Field") (199 + 1) :=
    (expresses_name (by decide)).field (by decide)
  have aliased : Gives .named ("alias" ++ "=" ++ Text.quoted a.sourceName) 199 :=
    .named (by decide) (expresses_quoted _)
  have default : Gives .named ("default" ++ "=" ++ "None") 199 :=
    .named (by decide) (expresses_value (by decide))
  by_cases required : a.required = true
  · have value := field.call _ (List.forall_mem_singleton.mpr aliased)
    refine line_annotated legal.name legal.type value ?_
    simp [written, required, Text.join]
  · have value := field.call _ (List.forall_mem_cons.mpr ⟨default, List.forall_mem_singleton.mpr aliased⟩)
    refine line_annotated legal.name legal.type value ?_
    simp [written, required, Text.join]

theorem holds_attributeLines {a : Attribute} (legal : Legal a) : Holds [4] (attributeLines a) :=
  (silent_commentLines a.description).holds.append
    ((line_attribute legal rfl).holds rfl)

theorem holds_attributeBlock {attributes : List Attribute} (legal : ∀ a ∈ attributes, Legal a) :
    Holds [4] (attributeBlock attributes) := by
  rw [attributeBlock]
  split
  · exact silent_nil.holds
  · exact (Holds.flatMap fun a member => holds_attributeLines (legal a member)).empty

theorem line_member {member : EnumMember} (legal : isName member.name = true) :
    Line 4 ("    " ++ member.name ++ " = " ++ Text.quoted member.value) :=
  line_assignment member.name legal (expresses_quoted member.value) (by simp)

theorem line_config : Line 4 configLine := by
  have config : Expresses ("_pydantic" ++ "." ++ "ConfigDict") (199 + 1) :=
    (expresses_name (by decide)).field (by decide)
  have given : Gives .named ("populate_by_name" ++ "=" ++ "True") 199 :=
    .named (by decide) (expresses_value (by decide))
  exact line_assignment "model_config" (by decide)
    (config.call _ (List.forall_mem_singleton.mpr given)) (by decide)

/-! ### Methods -/

def payloadEntry (key source : String) : List Lexeme :=
  List.replicate 12 .blank ++ [.literal ("\"" ++ key ++ "\""), .symbol ":", .blank, .word "self",
    .symbol ".", .word source]

def payloadLexemes : List Lexeme :=
  [[.word "return", .blank, .bracket '{', .turn],
    payloadEntry "operationName" "operation_name", [.symbol ",", .turn],
    payloadEntry "query" "document", [.symbol ",", .turn],
    payloadEntry "variables" "model_dump",
    [.bracket '(', .word "mode", .symbol "=", .literal "\"json\"", .symbol ",", .blank,
      .word "by_alias", .symbol "=", .word "True", .symbol ",", .blank,
      .word "exclude_none", .symbol "=", .word "True", .bracket ')', .symbol ",", .turn],
    List.replicate 8 .blank, [.bracket '}']].flatten

def payloadAllows : Lexeme → Bool
  | .word text => isWordText text.toList
  | .symbol text => text ∈ Lexer.spelledSymbols
  | .bracket c => Lexer.isBracket c
  | .literal text =>
    text ∈ ["\"operationName\"", "\"query\"", "\"variables\"", "\"json\""]
  | .blank | .turn => true

theorem legal_payloadLexemes : ∀ l ∈ payloadLexemes, l.Legal := by
  have plain : ∀ key ∈ ["operationName", "query", "variables", "json"],
      (Lexeme.literal (String.ofList ('"' :: (key.toList ++ ['"'])))).Legal := by
    intro key listed
    have chars : ∀ key ∈ ["operationName", "query", "variables", "json"],
        ∀ c ∈ key.toList, c ∉ ['\\', '\n', '"', '\r'] := by simp
    exact legal_doubleQuoted (chars key listed)
  have checked : ∀ l ∈ payloadLexemes, payloadAllows l = true := by decide +kernel
  intro l member
  have allowed := checked l member
  cases l with
  | word text => exact allowed
  | symbol text => exact (of_decide_eq_true allowed : text ∈ Lexer.spelledSymbols)
  | bracket c => exact allowed
  | literal text =>
    have listed := of_decide_eq_true allowed
    simp only [List.mem_cons, List.not_mem_nil, or_false] at listed
    rcases listed with rfl | rfl | rfl | rfl
    · exact plain "operationName" (by decide)
    · exact plain "query" (by decide)
    · exact plain "variables" (by decide)
    · exact plain "json" (by decide)
  | blank | turn => trivial

theorem logical_payload : Logical 8 ["        return \x7b",
    "            \"operationName\": self.operation_name,",
    "            \"query\": self.document,",
    "            \"variables\": " ++ "self.model_dump(mode=\"json\", by_alias=True, exclude_none=True),",
    "        \x7d"] payloadLexemes where
  chars := by
    rw [charsOf_eq (by decide +kernel)]
    decide +kernel
  starts := rfl
  legal := legal_payloadLexemes
  apart := by decide +kernel
  closed := by decide +kernel

def payloadTokens : List Token :=
  [.name "return", .symbol "\x7b",
    .text false, .symbol ":", .name "self", .symbol ".", .name "operation_name", .symbol ",",
    .text false, .symbol ":", .name "self", .symbol ".", .name "document", .symbol ",",
    .text false, .symbol ":", .name "self", .symbol ".", .name "model_dump", .symbol "(",
    .name "mode", .symbol "=", .text false, .symbol ",", .name "by_alias", .symbol "=",
    .name "True", .symbol ",", .name "exclude_none", .symbol "=", .name "True", .symbol ")",
    .symbol ",", .symbol "\x7d"]

theorem tokensOf_payloadLexemes : tokensOf payloadLexemes = payloadTokens := by
  decide +kernel

theorem isStatement_payload : IsStatement (tokensOf payloadLexemes ++ [.newline]) := by
  rw [tokensOf_payloadLexemes]
  exact isStatement_of_run 40 (by decide) rfl fun _ _ => rfl

theorem exists_dict : ∃ lexemes shape, spelled lexemes = "_typing.Dict[str, _typing.Any]".toList ∧
    Phrase lexemes 1 shape := by
  have any : Expresses ("_typing" ++ "." ++ "Any") 0 := (expresses_name (by decide)).field (by decide)
  have dict : Expresses ("_typing" ++ "." ++ "Dict") (0 + 1) :=
    (expresses_name (by decide)).field (by decide)
  exact dict.index "str" ["_typing" ++ "." ++ "Any"]
    (List.forall_mem_cons.mpr ⟨expresses_name (by decide), List.forall_mem_singleton.mpr any⟩)

theorem holds_method (line name : String) {lines : List String} {inside result : List Lexeme}
    {shape : Shape} (named : isName name = true) (spells : Spells inside 1)
    (parameters : IsParameters (tokensOf inside)) (phrase : Phrase result Literal.mostBrackets shape)
    (chars : line.toList = List.replicate 4 ' ' ++ ("def " ++ name ++ "(").toList
      ++ spelled inside ++ ") -> ".toList ++ spelled result ++ ":".toList)
    (below : HoldsBelow [4] 8 lines) :
    ∃ tokens, IsStatement (.name "def" :: tokens) ∧
      Sheds [4] (line :: lines) (.name "def" :: tokens) := by
  obtain ⟨isWord, legal⟩ := isName_iff.mp named
  obtain ⟨first, body, each, opens⟩ := below
  have sheds : Sheds [4] ([line] ++ lines) _ :=
    (logical_def isWord spells phrase chars).sheds_block rfl (by decide) opens
  refine ⟨.name name :: .symbol "(" :: (tokensOf inside ++ .symbol ")" :: .symbol "->"
    :: (tokensOf result ++ suite (first :: body))), isStatement_def legal parameters phrase.heads each, ?_⟩
  simpa [headed, Lexeme.token?, suite] using sheds

theorem holds_payload : Holds [4] ["    def payload(self) -> _typing.Dict[str, _typing.Any]:",
    "        \"\"\"Request body for the GraphQL endpoint.\"\"\"", "        return \x7b",
    "            \"operationName\": self.operation_name,",
    "            \"query\": self.document,",
    "            \"variables\": " ++ "self.model_dump(mode=\"json\", by_alias=True, exclude_none=True),",
    "        \x7d"] := by
  obtain ⟨dict, shape, chars, phrase⟩ := exists_dict
  have self : Phrase [.word "self"] 1 .name := phrase_word (by decide)
  have docstring : Line 8 "        \"\"\"Request body for the GraphQL endpoint.\"\"\"" :=
    line_docstring "Request body for the GraphQL endpoint." (by decide)
  have returned : Holds [8, 4] _ := logical_payload.holds rfl isStatement_payload
  obtain ⟨tokens, isStatement, sheds⟩ := holds_method
    "    def payload(self) -> _typing.Dict[str, _typing.Any]:" "payload" (by decide) self.toSpells
    (isParameters_single (by decide)) (phrase.mono (by decide)) (by rw [chars]; decide)
    (docstring.below (by decide) (by decide) returned)
  exact isStatement.holds sheds

theorem line_adapter {written : String} (legal : Expresses written 199) :
    Line 8 ("        adapter = _pydantic.TypeAdapter(" ++ written ++ ")") := by
  have typeAdapter : Expresses ("_pydantic" ++ "." ++ "TypeAdapter") (199 + 1) :=
    (expresses_name (by decide)).field (by decide)
  have value := typeAdapter.call [written] (List.forall_mem_singleton.mpr (.positional legal))
  refine line_assignment "adapter" (by decide) value ?_
  simp [Text.join]

theorem line_validated (field : String) :
    Line 8 ("        return adapter.validate_python(data.get(" ++ Text.quoted field ++ "))") := by
  have get : Expresses ("data" ++ "." ++ "get") (198 + 1) :=
    (expresses_name (by decide)).field (by decide)
  have entry := get.call [Text.quoted field]
    (List.forall_mem_singleton.mpr (.positional (expresses_quoted _)))
  have validate : Expresses ("adapter" ++ "." ++ "validate_python") (199 + 1) :=
    (expresses_name (by decide)).field (by decide)
  have value := validate.call _ (List.forall_mem_singleton.mpr (.positional entry))
  refine line_return value ?_
  simp [Text.join]

theorem sheds_classmethod :
    Sheds [4] ["    @classmethod"] [.symbol "@", .name "classmethod", .newline] := by
  have decorator : Logical 4 ["    @classmethod"] [.symbol "@", .word "classmethod"] :=
    logical_of_toList (by decide) rfl (.plain (by simp [Lexeme.Legal, Lexer.spelledSymbols]; decide)
      (by decide) rfl)
  exact decorator.sheds rfl

theorem holds_parseResult {request : RequestClass}
    (legal : Expresses request.result.written 199) :
    Holds [4] ["    @classmethod",
      "    def parse_result(cls, data: _typing.Dict[str, _typing.Any]) -> "
        ++ request.result.written ++ ":",
      "        \"\"\"Validate this field's entry in the response \x60\x60data\x60\x60.\"\"\"",
      "        adapter = _pydantic.TypeAdapter(" ++ request.result.written ++ ")",
      "        return adapter.validate_python(data.get("
        ++ Text.quoted request.field ++ "))"] := by
  obtain ⟨dict, kind, dictChars, dictPhrase⟩ := exists_dict
  have ⟨result, shape, chars, phrase⟩ := legal
  have cls : Phrase [.word "cls"] 1 .name := phrase_word (by decide)
  have data : Phrase [.word "data"] 1 .name := phrase_word (by decide)
  have inside := cls.toSpells.marked [.symbol ",", .blank]
    (data.toSpells.marked [.symbol ":", .blank] dictPhrase.toSpells rfl (by decide)) rfl (by decide)
  have docstring : Line 8
      "        \"\"\"Validate this field's entry in the response \x60\x60data\x60\x60.\"\"\"" :=
    line_docstring "Validate this field's entry in the response \x60\x60data\x60\x60." (by decide)
  have statements : Holds [8, 4] _ :=
    ((line_validated request.field).holds rfl).cons (line_adapter legal) rfl
  obtain ⟨tokens, isStatement, sheds⟩ := holds_method
    ("    def parse_result(cls, data: _typing.Dict[str, _typing.Any]) -> "
      ++ request.result.written ++ ":") "parse_result" (by decide) inside
    (isParameters_annotated (by decide) (by decide) dictPhrase.heads) (phrase.mono (by decide))
    (by simp [dictChars, chars, Lexeme.chars])
    (docstring.below (by decide) (by decide) statements)
  exact (isStatement_decorated (by decide) isStatement).holds (sheds_classmethod.append sheds)

end RequestModule

end GraphqlRequests
