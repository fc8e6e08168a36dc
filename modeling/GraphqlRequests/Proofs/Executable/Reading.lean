import GraphqlRequests.Proofs.Document.Reading
import GraphqlRequests.Proofs.Executable.Syntax
import GraphqlRequests.Proofs.Sdl.Reading

/-!
# Reading executable documents

Operations and fragments are read back from their tokens.
-/

namespace GraphqlRequests

open Sdl (Token Literal Ref Reader length_le_of_mem)

namespace Executable

open Sdl.Reader (bracketed run_optional_of_ne)
open Document (Item itemTokens)

/-! ### Selections -/

mutual

def Selection.ofItem : Item → Selection
  | .leaf name => .field none name [] [] []
  | .nested name items => .field none name [] [] (ofItems items)
  | .spread key => .spread key []

def Selection.ofItems : List Item → List Selection
  | [] => []
  | item :: rest => Selection.ofItem item :: Selection.ofItems rest

end

theorem Selection.ofItems_eq (items : List Item) : ofItems items = items.map ofItem := by
  induction items with
  | nil => rfl
  | cons item rest ih => rw [ofItems, ih, List.map_cons]

/-- A field that holds selections holds at least one, and no spread reads as a type condition. -/
inductive Readable : Item → Prop where
  | leaf {name} : Readable (.leaf name)
  | nested {name items} (nonempty : items ≠ []) (inside : ∀ item ∈ items, Readable item) :
      Readable (.nested name items)
  | spread {key} (other : key ≠ "on") : Readable (.spread key)

theorem itemTokens_eq (items : List Item) :
    itemTokens items = items.flatMap fun item => itemTokens [item] := by
  induction items with
  | nil => simp [itemTokens]
  | cons item rest ih =>
    rw [List.flatMap_cons, ← ih]
    cases item <;> simp [itemTokens]

def fieldTokens (name : String) (arguments : List (String × Literal)) (items : List Item) :
    List Token :=
  .name name :: (bracketed "(" ")" Literal.memberTokens arguments
    ++ bracketed "\x7b" "\x7d" (fun item => itemTokens [item]) items)

def Apart (rest : List Token) : Prop :=
  ∀ text ∈ [":", "(", "@", "\x7b"], rest.head? ≠ some (.mark text)

theorem apart_close (rest : List Token) : Apart (.mark "\x7d" :: rest) := by
  simp [Apart]

theorem apart_item (item : Item) (rest : List Token) : Apart (itemTokens [item] ++ rest) ∧
    (itemTokens [item] ++ rest).head? ≠ some (.mark "\x7d") := by
  cases item <;> simp [Apart, itemTokens]

theorem run_directives {withVariables : Bool} {rest : List Token}
    (other : rest.head? ≠ some (.mark "@")) :
    (directives withVariables).run rest = some ([], rest) := by
  simp [directives, Reader.directivesWithin, Reader.directivesTo, run_optional_of_ne other]

theorem run_argument {withVariables : Bool} {argument : String × Literal}
    (proper : argument.2.Proper withVariables) (rest : List Token) :
    (Executable.argument withVariables).run (Literal.memberTokens argument ++ rest)
      = some (argument, rest) := by
  have enough : argument.2.tokens.length ≤ (Literal.memberTokens argument ++ rest).length := by
    simp only [Literal.memberTokens, List.length_append, List.length_cons]
    omega
  exact Reader.run_argument (Reader.run_literalTo proper enough rest)

theorem head?_bracketed_append {α : Type} {opening close other : String}
    {tokens : α → List Token} {items : List α} {rest : List Token} (differs : opening ≠ other)
    (apart : rest.head? ≠ some (.mark other)) :
    (bracketed opening close tokens items ++ rest).head? ≠ some (.mark other) := by
  rw [bracketed]
  split
  · exact apart
  · simpa using differs

section Selections

variable {items : List Item} {left : Nat} {rest : List Token}
variable (reads : ∀ item ∈ items, ∀ rest, Apart rest →
  (selection (selectionsTo left)).run (itemTokens [item] ++ rest) = some (.ofItem item, rest))
include reads

theorem run_selectionsTo (nonempty : items ≠ []) (rest : List Token) :
    (selectionsTo (left + 1)).run (.mark "\x7b" :: (itemTokens items ++ .mark "\x7d" :: rest))
      = some (items.map .ofItem, rest) := by
  rw [itemTokens_eq, selectionsTo]
  exact Reader.run_between (fun item _ rest => apart_item item rest) reads apart_close nonempty rest

theorem run_field {name : String} {arguments : List (String × Literal)}
    (proper : ∀ argument ∈ arguments, argument.2.Proper true) (apart : Apart rest) :
    (field (selectionsTo (left + 1))).run (fieldTokens name arguments items ++ rest)
      = some (.field none name arguments [] (items.map .ofItem), rest) := by
  -- Each part may be missing, so what follows must not be taken for it.
  have tail : ∀ text ∈ [":", "(", "@"],
      (bracketed "\x7b" "\x7d" (fun item => itemTokens [item]) items ++ rest).head?
        ≠ some (.mark text) := by
    intro text member
    have differs : "\x7b" ≠ text := by
      rintro rfl
      simp at member
    exact head?_bracketed_append differs (apart text (List.mem_append_left ["\x7b"] member))
  have label : (bracketed "(" ")" Literal.memberTokens arguments ++ _).head?
      ≠ some (.mark ":") := head?_bracketed_append (by decide) (tail ":" (by simp))
  have each : ∀ a ∈ arguments, ∀ rest, True →
      (argument true).run (Literal.memberTokens a ++ rest) = some (id a, rest) :=
    fun a member rest _ => run_argument (proper a member) rest
  have given : (Reader.optionalBetween "(" ")" (argument true)).run _ = _ :=
    Reader.run_optionalBetween (fun a _ rest => ⟨trivial, by simp [Literal.memberTokens]⟩) each
      (fun _ => trivial) (tail "(" (by simp))
  rw [fieldTokens, List.cons_append, List.append_assoc, field]
  simp only [StateT.run_bind, Reader.run_name, Option.bind_eq_bind, Option.bind_some,
    run_optional_of_ne label, Bool.false_eq_true, if_false, StateT.run_pure, Option.pure_def, given,
    run_directives (tail "@" (by simp)), Reader.run_peek, List.map_id]
  by_cases none : items = []
  · have ends : rest.head? ≠ some (.mark "\x7b") := apart _ (by simp)
    subst none
    simp [bracketed, ends]
  · have inside := run_selectionsTo reads none rest
    rw [itemTokens_eq] at inside
    simp [bracketed, none, inside]

end Selections

theorem run_selection_name {inside : Reader (List Selection)} {name : String}
    {tokens : List Token} :
    (selection inside).run (.name name :: tokens) = (field inside).run (.name name :: tokens) := by
  have other : (Token.name name :: tokens).head? ≠ some (.mark "...") := by simp
  simp [selection, run_optional_of_ne other]

theorem run_selection {item : Item} (readable : Readable item) {left : Nat}
    (enough : (itemTokens [item]).length ≤ left) {rest : List Token} (apart : Apart rest) :
    (selection (selectionsTo left)).run (itemTokens [item] ++ rest)
      = some (.ofItem item, rest) := by
  induction readable generalizing left rest with
  | @leaf name =>
    obtain _ | left := left
    · simp [itemTokens] at enough
    have read : (field (selectionsTo (left + 1))).run (fieldTokens name [] [] ++ rest) = _ :=
      run_field (by simp) (by simp) apart
    rw [itemTokens, itemTokens, List.cons_append, List.nil_append, run_selection_name]
    exact read
  | @nested name items nonempty _ ih =>
    have tokens : itemTokens [.nested name items] = fieldTokens name [] items := by
      simp [itemTokens, fieldTokens, bracketed, nonempty, ← itemTokens_eq]
    obtain _ | left := left
    · simp [itemTokens] at enough
    -- The items below have fewer tokens than the field, so that one level less is enough.
    have inside : ∀ item ∈ items, ∀ rest, Apart rest →
        (selection (selectionsTo left)).run (itemTokens [item] ++ rest)
          = some (.ofItem item, rest) := by
      intro item member rest apart
      refine ih item member ?_ apart
      have part := length_le_of_mem (fun item => itemTokens [item]) member
      rw [← itemTokens_eq] at part
      simp only [itemTokens, List.length_cons, List.length_append] at enough
      omega
    have read : (field _).run (fieldTokens name [] items ++ rest) = _ :=
      run_field inside (by simp) apart
    rw [tokens, fieldTokens, List.cons_append, run_selection_name, Selection.ofItem,
      Selection.ofItems_eq]
    exact read
  | @spread key other =>
    have none : (directives true).run rest = _ := run_directives (apart "@" (by simp))
    simp [itemTokens, selection, none, Selection.ofItem]

/-! ### Variables -/

def defaultTokens : Option Literal → List Token
  | none => []
  | some literal => .mark "=" :: literal.tokens

def Variable.tokens (v : Variable) : List Token :=
  .mark "$" :: .name v.name :: .mark ":" :: (Sdl.refTokens v.type ++ defaultTokens v.default)

structure Variable.Proper (v : Variable) : Prop where
  type : v.type.Proper
  default : ∀ literal ∈ v.default, literal.Proper false
  directives : v.directives = []

theorem run_defaultLiteral {default : Option Literal}
    (constant : ∀ literal ∈ default, literal.Proper false) {rest : List Token}
    (other : rest.head? ≠ some (.mark "=")) :
    defaultLiteral.run (defaultTokens default ++ rest) = some (default, rest) := by
  cases default with
  | none => simp [defaultLiteral, defaultTokens, run_optional_of_ne other]
  | some literal =>
    have enough : literal.tokens.length ≤ (literal.tokens ++ rest).length := by
      rw [List.length_append]
      exact Nat.le_add_right _ _
    have read := Reader.run_literalTo (constant literal rfl) enough rest
    rw [List.length_append] at read
    simp [defaultLiteral, defaultTokens, read]

theorem run_variableDefinition {v : Variable} (proper : v.Proper) {rest : List Token}
    (apart : ∀ text ∈ ["!", "=", "@"], rest.head? ≠ some (.mark text)) :
    variableDefinition.run (v.tokens ++ rest) = some (v, rest) := by
  obtain ⟨name, type, default, directives⟩ := v
  obtain ⟨proper, constant, rfl⟩ := proper
  have mark : (defaultTokens default ++ rest).head? ≠ some (.mark "!") := by
    cases default with
    | none => exact apart "!" (by simp)
    | some => simp [defaultTokens]
  have enough : (Sdl.refTokens type).length
      ≤ (Sdl.refTokens type ++ (defaultTokens default ++ rest)).length := by
    rw [List.length_append]
    exact Nat.le_add_right _ _
  have ref := Reader.run_refTo proper enough mark
  have given := run_defaultLiteral constant (apart "=" (by simp))
  have none : (directives false).run rest = _ := run_directives (apart "@" (by simp))
  simp only [Variable.tokens, List.cons_append, List.append_assoc, variableDefinition]
  simp [-List.length_append, ref, given, none]

/-! ### Operations -/

/-- An operation with one field, and what this field holds. -/
structure RootCall where
  kind : OperationKind
  name : String
  definitions : List Variable
  root : String
  arguments : List (String × Literal)
  items : List Item

namespace RootCall

def operation (r : RootCall) : Operation where
  kind := r.kind
  name := some r.name
  variableDefinitions := r.definitions
  selections := [.field none r.root r.arguments [] (r.items.map .ofItem)]

def tokens (r : RootCall) : List Token :=
  .name r.kind.keyword :: .name r.name :: (bracketed "(" ")" Variable.tokens r.definitions
    ++ .mark "\x7b" :: (fieldTokens r.root r.arguments r.items ++ [.mark "\x7d"]))

structure Readable (r : RootCall) : Prop where
  definitions : ∀ v ∈ r.definitions, v.Proper
  arguments : ∀ argument ∈ r.arguments, argument.2.Proper true
  items : ∀ item ∈ r.items, Executable.Readable item

end RootCall

theorem length_itemTokens_le (name : String) (arguments : List (String × Literal))
    (items : List Item) :
    (itemTokens items).length ≤ (fieldTokens name arguments items).length := by
  by_cases none : items = []
  · simp [none, itemTokens]
  · rw [itemTokens_eq, fieldTokens, bracketed, bracketed, if_neg none]
    simp only [List.length_cons, List.length_append]
    omega

theorem run_selections_field {name : String} {arguments : List (String × Literal)}
    {items : List Item} (proper : ∀ argument ∈ arguments, argument.2.Proper true)
    (readable : ∀ item ∈ items, Readable item) (rest : List Token) :
    selections.run (.mark "\x7b" :: (fieldTokens name arguments items ++ .mark "\x7d" :: rest))
      = some ([.field none name arguments [] (items.map .ofItem)], rest) := by
  -- Selections nest once for the field and then as deep as its items go.
  obtain ⟨left, depth, enough⟩ : ∃ left,
      (Token.mark "\x7b" :: (fieldTokens name arguments items ++ .mark "\x7d" :: rest)).length
        = left + 2 ∧ (itemTokens items).length ≤ left := by
    have part := length_itemTokens_le name arguments items
    refine ⟨(fieldTokens name arguments items).length + rest.length, ?_, by omega⟩
    simp only [List.length_cons, List.length_append]
    omega
  have reads : ∀ item ∈ items, ∀ rest, Apart rest →
      (selection (selectionsTo left)).run (itemTokens [item] ++ rest)
        = some (.ofItem item, rest) := by
    intro item member rest apart
    have part := length_le_of_mem (fun item => itemTokens [item]) member
    rw [← itemTokens_eq] at part
    exact run_selection (readable item member) (by omega) apart
  have field : ∀ a ∈ [()], ∀ rest, Apart rest →
      (selection (selectionsTo (left + 1))).run (fieldTokens name arguments items ++ rest)
        = some (.field none name arguments [] (items.map .ofItem), rest) :=
    fun _ _ rest apart => run_selection_name.trans (run_field reads proper apart)
  have starts : ∀ a ∈ [()], ∀ rest, Apart (fieldTokens name arguments items ++ rest) ∧
      (fieldTokens name arguments items ++ rest).head? ≠ some (.mark "\x7d") :=
    fun _ _ rest => by simp [fieldTokens, Apart]
  have read : (Reader.between "\x7b" "\x7d" _).run _ = _ :=
    Reader.run_between starts field apart_close (by simp) rest
  rw [selections, StateT.run_bind, StateT.run_get]
  simp only [Option.pure_def, Option.bind_eq_bind, Option.bind_some, depth]
  rw [selectionsTo]
  simpa using read

theorem operationOf?_keyword (kind : OperationKind) :
    Reader.operationOf? kind.keyword = some kind := by
  cases kind <;> rfl

theorem run_definition_operation {r : RootCall} (readable : r.Readable) (rest : List Token) :
    definition.run (r.tokens ++ rest) = some (.operation r.operation, rest) := by
  obtain ⟨kind, name, definitions, root, arguments, items⟩ := r
  obtain ⟨declared, proper, inside⟩ := readable
  have each : ∀ v ∈ definitions, ∀ rest,
      (∀ text ∈ ["!", "=", "@"], rest.head? ≠ some (.mark text)) →
        variableDefinition.run (v.tokens ++ rest) = some (id v, rest) :=
    fun v member rest apart => run_variableDefinition (declared v member) apart
  have given : (Reader.optionalBetween "(" ")" variableDefinition).run
      (_ ++ .mark "\x7b" :: (fieldTokens root arguments items ++ .mark "\x7d" :: rest)) = _ :=
    Reader.run_optionalBetween (fun v _ rest => by simp [Variable.tokens]) each (by simp) (by simp)
  have none : (directives true).run
      (.mark "\x7b" :: (fieldTokens root arguments items ++ .mark "\x7d" :: rest)) = _ :=
    run_directives (by simp)
  have selected : selections.run (.mark "\x7b" :: (fieldTokens root arguments items ++ _)) = _ :=
    run_selections_field proper inside rest
  simp [definition, RootCall.tokens, operationOf?_keyword, operation, given, none, selected,
    RootCall.operation]

/-! ### Fragments -/

def Fragment.ofDefinition (d : Document.Definition) : Fragment where
  key := d.key
  type := d.type
  selections := d.items.map .ofItem

structure ReadableFragment (d : Document.Definition) : Prop where
  key : d.key ≠ "on"
  nonempty : d.items ≠ []
  items : ∀ item ∈ d.items, Readable item

theorem run_definition_fragment {d : Document.Definition} (readable : ReadableFragment d)
    (rest : List Token) :
    definition.run (d.tokens ++ rest) = some (.fragment (.ofDefinition d), rest) := by
  obtain ⟨key, type, items⟩ := d
  obtain ⟨other, nonempty, each⟩ := readable
  have none : (directives true).run (.mark "\x7b" :: (itemTokens items ++ .mark "\x7d" :: rest))
      = _ := run_directives (by simp)
  have reads : ∀ item ∈ items, ∀ rest', Apart rest' →
      (selection (selectionsTo (itemTokens items ++ .mark "\x7d" :: rest).length)).run
        (itemTokens [item] ++ rest') = some (.ofItem item, rest') := by
    intro item member rest' apart
    have part := length_le_of_mem (fun item => itemTokens [item]) member
    rw [← itemTokens_eq] at part
    refine run_selection (each item member) ?_ apart
    rw [List.length_append]
    omega
  have selected : selections.run
      (.mark "\x7b" :: (itemTokens items ++ .mark "\x7d" :: rest))
      = some (items.map .ofItem, rest) := run_selectionsTo reads nonempty rest
  have word : Reader.operationOf? "fragment" = Option.none := rfl
  simp [definition, Document.Definition.tokens, word, fragment, other, none, selected,
    Fragment.ofDefinition]

theorem run_definitions {first : Definition} {others : Document} {tokens rest : List Token}
    {left : Nat} (read : definition.run tokens = some (first, rest))
    (next : rest ≠ [] → (definitions left).run rest = some (others, []))
    (last : rest = [] → others = []) :
    (definitions (left + 1)).run tokens = some (first :: others, []) := by
  cases rest with
  | nil => simp [definitions, read, last]
  | cons => simp [definitions, read, next]

theorem flatMap_tokens_eq_nil {fragments : List Document.Definition} :
    fragments.flatMap Document.Definition.tokens = [] ↔ fragments = [] := by
  cases fragments <;> simp [Document.Definition.tokens]

theorem run_definitions_fragments {fragments : List Document.Definition}
    (nonempty : fragments ≠ []) (readable : ∀ d ∈ fragments, ReadableFragment d)
    {left : Nat} (enough : fragments.length ≤ left) :
    (definitions left).run (fragments.flatMap Document.Definition.tokens)
      = some (fragments.map fun d => .fragment (.ofDefinition d), []) := by
  induction fragments generalizing left with
  | nil => exact absurd rfl nonempty
  | cons d others ih =>
    obtain _ | left := left
    · cases enough
    obtain ⟨here, later⟩ := List.forall_mem_cons.mp readable
    refine run_definitions (run_definition_fragment here _) (fun more => ?_) (fun none => ?_)
    · exact ih (mt flatMap_tokens_eq_nil.mpr more) later (Nat.le_of_succ_le_succ enough)
    · rw [flatMap_tokens_eq_nil.mp none, List.map_nil]

theorem read_of_tokens? {text : String} {r : RootCall} {fragments : List Document.Definition}
    (tokens : Sdl.tokens? text = some (r.tokens ++ fragments.flatMap Document.Definition.tokens))
    (readable : r.Readable) (defined : ∀ d ∈ fragments, ReadableFragment d) :
    read text = some (.operation r.operation
      :: fragments.map fun d => .fragment (.ofDefinition d)) := by
  have whole : (definitions (r.tokens ++ fragments.flatMap Document.Definition.tokens).length).run
      (r.tokens ++ fragments.flatMap Document.Definition.tokens) = some (.operation r.operation
        :: fragments.map fun d => .fragment (.ofDefinition d), []) := by
    have few := Document.length_le_length_flatMap_tokens fragments
    have first := run_definition_operation readable (fragments.flatMap Document.Definition.tokens)
    obtain ⟨left, length⟩ : ∃ left,
        (r.tokens ++ fragments.flatMap Document.Definition.tokens).length = left + 1 := ⟨_, rfl⟩
    rw [length]
    refine run_definitions first (fun more => ?_) (fun none => ?_)
    · refine run_definitions_fragments (mt flatMap_tokens_eq_nil.mpr more) defined ?_
      simp only [RootCall.tokens, List.length_append, List.length_cons] at length
      omega
    · rw [flatMap_tokens_eq_nil.mp none, List.map_nil]
  simp only [read, tokens, Option.bind_eq_bind, Option.bind_some, StateT.run'_eq, whole]
  rfl

/-- The grammar has more than what is written here. -/
example : read "query Q($n: Int = 1) \x7b a: b(c: [$n]) @d \x7b ... on T \x7b e \x7d \x7d \x7d" =
    some [.operation
      { kind := .query, name := some "Q"
        variableDefinitions := [{ name := "n", type := .named "Int", default := some (.int "1") }]
        selections := [.field (some "a") "b" [("c", .list [.variable "n"])] [⟨"d", []⟩]
          [.inline (some "T") [] [.field none "e" [] [] []]]] }] := by cbv

end Executable

end GraphqlRequests
