import GraphqlRequests.Proofs.Naming.Identifiers
import GraphqlRequests.Proofs.Scalar.Imports
import GraphqlRequests.Proofs.Source.Lines
import GraphqlRequests.Proofs.Text.Names

/-!
# How scalars are spelled

Where the configured paths are identifiers with dots between them, every annotation for a scalar is
an expression, and the import of its module is a statement.
-/

namespace GraphqlRequests

open Source Text

/-! ### Dotted paths -/

def isDotted (path : List Char) : Bool :=
  (splitChars '.' path).all fun part => isName (String.ofList part)

namespace Source

def pathLexemes (first : String) (others : List String) : List Lexeme :=
  [.word first] ++ others.flatMap fun part => [.symbol ".", .word part]

theorem tokensOf_pathLexemes (first : String) (others : List String) :
    tokensOf (pathLexemes first others) = dotted first others := by
  have parts : tokensOf (others.flatMap fun part => [.symbol ".", .word part])
      = others.flatMap fun part => [.symbol ".", .name part] := by
    induction others with
    | nil => rfl
    | cons part others ih =>
      rw [List.flatMap_cons, List.flatMap_cons, tokensOf_append, ih]
      rfl
  rw [pathLexemes, tokensOf_append, parts]
  rfl

theorem spelled_pathLexemes (first : String) (others : List String) :
    spelled (pathLexemes first others)
      = ['.'].intercalate ((first :: others).map String.toList) := by
  rw [pathLexemes, spelled_append]
  induction others generalizing first with
  | nil => simp [Lexeme.chars, List.intercalate]
  | cons part others ih =>
    have rest := ih part
    simp_all [Lexeme.chars, List.intercalate]

end Source

theorem exists_parts {path : List Char} (legal : isDotted path = true) :
    ∃ first others, (∀ part ∈ first :: others, isName part = true) ∧
      spelled (pathLexemes first others) = path := by
  obtain ⟨first, others, parts⟩ := List.exists_cons_of_ne_nil (splitChars_ne_nil '.' path)
  have each := List.all_eq_true.mp legal
  rw [parts] at each
  refine ⟨String.ofList first, others.map String.ofList, ?_, ?_⟩
  · rw [← List.map_cons]
    exact List.forall_mem_map.mpr each
  · have same : ((first :: others).map String.ofList).map String.toList = splitChars '.' path := by
      rw [parts, List.map_map]
      simp [Function.comp_def]
    rw [spelled_pathLexemes, ← List.map_cons, same, intercalate_splitChars]

namespace ScalarMapping

theorem splitChars_splitPath (path : List Char) : splitChars '.' path
    = (match (splitPath path).1 with
      | none => []
      | some before => splitChars '.' before) ++ [(splitPath path).2] := by
  induction path with
  | nil => rfl
  | cons c rest ih =>
    rw [splitPath, splitChars, ih]
    cases split : splitPath rest with
    | mk before name =>
      cases before with
      | none => by_cases dot : c = '.' <;> simp [dot, splitChars]
      | some before =>
        obtain ⟨first, others, parts⟩ := List.exists_cons_of_ne_nil (splitChars_ne_nil '.' before)
        by_cases dot : c = '.' <;> simp [dot, splitChars, parts]

/-! ### Aliases -/

theorem continuesName_of_isDotted {path : List Char} (legal : isDotted path = true) :
    ∀ c ∈ path, c ≠ '.' → continuesName c = true := by
  intro c member other
  obtain ⟨part, listed, inside⟩ := Naming.exists_mem_splitChars member other
  have named := List.all_eq_true.mp legal part listed
  rw [isName_iff, String.toList_ofList] at named
  cases part with
  | nil => cases inside
  | cons first rest =>
    obtain ⟨starts, continues⟩ := Bool.and_eq_true_iff.mp named.1
    rcases List.mem_cons.mp inside with rfl | later
    · exact continuesName_of_startsName starts
    · exact List.all_eq_true.mp continues c later

theorem isName_moduleAlias {path : String} (legal : isDotted path.toList = true) :
    isName (moduleAlias path) = true := by
  have none : ∀ word ∈ Naming.keywords, word.toList.head? ≠ some '_' := by decide
  have continues : ∀ c ∈ path.toList, continuesName (if c = '.' then '_' else c) = true := by
    intro c member
    split
    · decide
    · next other => exact continuesName_of_isDotted legal c member other
  refine isName_iff.mpr ⟨?_, fun keyword => none _ keyword (by simp [moduleAlias])⟩
  rw [moduleAlias, String.toList_ofList, isWordText, List.all_map, Bool.and_eq_true, List.all_eq_true]
  exact ⟨by decide, continues⟩

/-! ### Mappings -/

structure Spelled (mapping : ScalarMapping) : Prop where
  expresses : Expresses mapping.typeText 0
  dotted : ∀ source ∈ mapping.source, isDotted source.toList = true

theorem spelled_ofPath {path : String} (legal : isDotted path.toList = true) :
    (ofPath path).Spelled := by
  rw [isDotted, splitChars_splitPath, List.all_append, Bool.and_eq_true, List.all_cons,
    List.all_nil, Bool.and_true] at legal
  obtain ⟨before, name⟩ := legal
  rw [ofPath]
  split
  · next c rest last split =>
    rw [split] at before name
    have source : isDotted (String.ofList (c :: rest)).toList = true := by
      rw [String.toList_ofList]
      exact before
    refine ⟨(expresses_name (isName_moduleAlias source)).field name, ?_⟩
    simpa using source
  · next last _ split =>
    rw [split] at name
    exact ⟨expresses_name name, by simp⟩

end ScalarMapping

theorem ScalarRegistry.spelled_default : ∀ e ∈ default.mappings, e.2.Spelled := by
  intro e member
  rcases List.mem_append.mp member with builtin | common
  · obtain ⟨s, listed, rfl⟩ := List.mem_map.mp builtin
    have names : ∀ s ∈ [("String", "str"), ("Int", "int"), ("Float", "float"), ("Boolean", "bool"),
        ("ID", "str")], isName s.2 = true := by decide
    exact ⟨expresses_name (names s listed), by simp⟩
  · obtain ⟨s, listed, rfl⟩ := List.mem_map.mp common
    have paths : ∀ s ∈ [("DateTime", "datetime.datetime"), ("Date", "datetime.date"),
        ("Time", "datetime.time"), ("UUID", "uuid.UUID"), ("Decimal", "decimal.Decimal"),
        ("JSON", "typing.Any"), ("JSONObject", "typing.Any")],
        isDotted s.2.toList = true := by decide
    exact ScalarMapping.spelled_ofPath (paths s listed)

/-- Every scalar has a mapping that is spelled well, where the configured paths are. -/
theorem Config.spelled_mapping {config : Config}
    (legal : ∀ path ∈ config.scalars, isDotted path.2.toList = true) (name : String) :
    (config.registry.mapping name).Spelled :=
  config.forall_mapping ScalarRegistry.spelled_default (ScalarMapping.spelled_ofPath (by decide))
    (fun path member => ScalarMapping.spelled_ofPath (legal path member)) name

theorem Config.isDotted_of_mem_sourcesFor {config : Config}
    (legal : ∀ path ∈ config.scalars, isDotted path.2.toList = true) {names : List String} :
    ∀ source ∈ config.registry.sourcesFor names, isDotted source.toList = true := by
  intro source member
  obtain ⟨name, -, imported⟩ := List.mem_filterMap.mp member
  exact (config.spelled_mapping legal name).dotted source imported

/-! ### Imports -/

theorem line_importOf {path : String} (legal : isDotted path.toList = true) :
    Line 0 (ScalarMapping.importOf path) := by
  obtain ⟨first, others, named, chars⟩ := exists_parts legal
  have each : ∀ part ∈ first :: others, part ∉ Naming.keywords :=
    fun part member => (isName_iff.mp (named part member)).2
  obtain ⟨here, later⟩ := List.forall_mem_cons.mp named
  obtain ⟨isWord, other⟩ := isName_iff.mp (ScalarMapping.isName_moduleAlias legal)
  have phrase : ∃ shape, Phrase (pathLexemes first others) Literal.mostBrackets shape :=
    (phrase_word here).fields later
  obtain ⟨shape, phrase⟩ := phrase
  have keyword : ∀ text ∈ ["import", "as"], Spells [.word text] Literal.mostBrackets := by
    have words : ∀ text ∈ ["import", "as"], isWordText text.toList = true := by decide
    exact fun text listed => .word (words text listed)
  have spells := (keyword "import" (by decide)).separated (phrase.toSpells.separated
    ((keyword "as" (by decide)).separated (.word isWord)))
  refine ⟨_, logical_of_toList ?_ rfl spells, ?_⟩
  · simp [ScalarMapping.importOf, Lexeme.chars, chars]
  · have statement := isStatement_import (each first List.mem_cons_self)
      (fun part member => each part (List.mem_cons_of_mem _ member)) other
    rw [← tokensOf_pathLexemes] at statement
    simpa [Lexeme.token?] using statement

end GraphqlRequests
