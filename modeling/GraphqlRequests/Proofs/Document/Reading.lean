import GraphqlRequests.Proofs.Document.Lexing
import GraphqlRequests.Proofs.Text.Lines

/-!
# Reading written selections

`Body.read` gives back what `Body.lines` writes.
-/

namespace GraphqlRequests.Document

open Sdl (Token Lexer)

/-! ### From lines to tokens -/

theorem LinesLex.lexes {lines : List String} {tokens : List Token} (lex : LinesLex lines tokens) :
    Lexes (lines.flatMap fun line => line.toList ++ ['\n']) tokens := by
  induction lex with
  | nil => exact .nil
  | cons first _ ih => exact Lexes.append first ih

theorem finish_of_step {lexer : Lexer} {tokens : List Token}
    (ends : lexer.step '\n' = some ⟨.idle, tokens⟩) : lexer.finish = some tokens.reverse := by
  obtain ⟨mode, read⟩ := lexer
  -- Only from these modes does a line break lead back to idleness, and a text may end in them too.
  cases mode with
  | idle | comment | name =>
    obtain ⟨-, rfl⟩ := Lexer.mk.inj (Option.some.inj ends)
    rfl
  | number chars =>
    have ended : Lexer.extendsNumber chars '\n' = false :=
      Stops.not_extendsNumber (.inl rfl) chars
    simp only [Lexer.step, ended, Bool.false_eq_true, if_false, Option.bind_eq_bind,
      Option.bind_eq_some_iff] at ends
    obtain ⟨token, number, same⟩ := ends
    obtain ⟨-, rfl⟩ := Lexer.mk.inj (Option.some.inj same)
    simp [Lexer.finish, number]
  | opening count =>
    by_cases two : count = 2
    · subst two
      obtain ⟨-, rfl⟩ := Lexer.mk.inj (Option.some.inj ends)
      rfl
    · simp [Lexer.step, two] at ends
  | dots => cases ends
  | text chars => cases ends
  | escape chars => cases ends
  | code chars digits => cases ends
  | wideCode chars digits =>
    have digit : Json.hexValue? '\n' = none := rfl
    simp [Lexer.step, digit] at ends
  | low chars high start => cases start <;> cases ends
  | lowCode chars high digits => cases ends
  | block chars quotes slash => cases ends

theorem tokens?_unlines {lines : List String} {tokens : List Token} (lex : LinesLex lines tokens)
    (nonempty : lines ≠ []) : Sdl.tokens? (Text.unlines lines) = some tokens := by
  have whole := lex.lexes []
  rw [← Text.toList_unlines nonempty, List.foldlM_append] at whole
  simp only [Sdl.tokens?]
  cases read : (Text.unlines lines).toList.foldlM Lexer.step {} with
  | none => rw [read] at whole; cases whole
  | some lexer =>
    rw [read] at whole
    have ends : Lexer.step lexer '\n' = some ⟨.idle, tokens.reverse⟩ := by
      simpa using whole
    simpa using finish_of_step ends

/-! ### Selections -/

def itemTokens : List Item → List Token
  | [] => []
  | .leaf name :: rest => .name name :: itemTokens rest
  | .nested name inner :: rest =>
    .name name :: .mark "\x7b" :: (itemTokens inner ++ .mark "\x7d" :: itemTokens rest)
  | .spread key :: rest => .mark "..." :: .name key :: itemTokens rest

theorem linesLex_items {items : List Item} (named : Named items) :
    LinesLex (itemLines items) (itemTokens items) := by
  induction named with
  | nil => simpa only [itemLines, itemTokens] using LinesLex.nil
  | leaf name _ ih =>
    simp only [itemLines, itemTokens]
    exact .cons (lineLexes_name name) ih
  | nested name _ _ inside ih =>
    simp only [itemLines, itemTokens]
    exact .cons (lineLexes_name_open name) (inside.indent.append (.cons lineLexes_close ih))
  | spread key _ _ ih =>
    simp only [itemLines, itemTokens]
    exact .cons (lineLexes_spread key) ih

/-- A field is followed by a further selection or by the end of the selections. -/
theorem itemTokens_ne_open (items : List Item) (rest others : List Token) :
    itemTokens items ++ .mark "\x7d" :: rest ≠ .mark "\x7b" :: others := by
  cases items with
  | nil => simp [itemTokens]
  | cons item items => cases item <;> simp [itemTokens]

theorem readItems_leaf {left : Nat} {name : String} {rest : List Token}
    (plain : ∀ others, rest ≠ .mark "\x7b" :: others) :
    readItems (left + 1) (.name name :: rest) = (do
      let (items, rest) ← readItems left rest
      return (.leaf name :: items, rest)) := by
  rw [readItems]
  simpa using plain

theorem readItems_tokens {items : List Item} (named : Named items) {left : Nat}
    (enough : (itemTokens items).length < left) (rest : List Token) :
    readItems left (itemTokens items ++ .mark "\x7d" :: rest) = some (items, rest) := by
  -- Every token read takes one from what is left, so that something is left for the closing brace.
  induction named generalizing left rest with
  | nil =>
    obtain _ | left := left
    · cases enough
    · simp [itemTokens, readItems]
  | leaf _ _ ih =>
    obtain _ | left := left
    · cases enough
    · simp only [itemTokens, List.length_cons, Nat.add_lt_add_iff_right] at enough
      simp only [itemTokens, List.cons_append]
      rw [readItems_leaf (itemTokens_ne_open _ _), ih enough]
      rfl
  | nested _ _ _ inside ih =>
    obtain _ | left := left
    · cases enough
    · simp only [itemTokens, List.length_cons, List.length_append] at enough
      simp only [itemTokens, List.cons_append, List.append_assoc]
      rw [readItems, inside (by omega)]
      simp only [Option.bind_eq_bind, Option.bind_some]
      rw [ih (by omega)]
      rfl
  | spread _ other _ ih =>
    obtain _ | left := left
    · cases enough
    · simp only [itemTokens, List.length_cons] at enough
      simp only [itemTokens, List.cons_append]
      rw [readItems, if_neg other, ih (by omega)]
      rfl

/-! ### Fragments -/

def Definition.tokens (d : Definition) : List Token :=
  .name "fragment" :: .name d.key :: .name "on" :: .name d.type :: .mark "\x7b"
    :: (itemTokens d.items ++ [.mark "\x7d"])

theorem lineLexes_definition {d : Definition} (named : d.Named) :
    LineLexes ("fragment " ++ d.key ++ " on " ++ d.type ++ " \x7b")
      [.name "fragment", .name d.key, .name "on", .name d.type, .mark "\x7b"] := by
  have split : ("fragment " ++ d.key ++ " on " ++ d.type ++ " \x7b").toList ++ ['\n']
      = ("fragment".toList ++ [' ']) ++ ((d.key.toList ++ [' ']) ++ (("on".toList ++ [' '])
        ++ ((d.type.toList ++ [' ']) ++ (['{'] ++ ['\n'])))) := by
    simp
  have word : ∀ {name : String}, Sdl.isName name.toList = true →
      Lexes (name.toList ++ [' ']) [.name name] := fun named => lexes_name named rfl
  rw [LineLexes, split]
  exact (word rfl).append ((word named.key).append ((word rfl).append ((word named.type).append
    (lexes_open.append lexes_break))))

theorem linesLex_definition {d : Definition} (named : d.Named) : LinesLex d.lines d.tokens :=
  .cons (lineLexes_definition named)
    ((linesLex_items named.items).indent.append (.single lineLexes_close))

theorem linesLex_definitions {definitions : List Definition}
    (named : ∀ d ∈ definitions, d.Named) :
    LinesLex (definitions.flatMap fun d => "" :: d.lines)
      (definitions.flatMap Definition.tokens) := by
  induction definitions with
  | nil => exact .nil
  | cons d rest ih =>
    obtain ⟨here, later⟩ := List.forall_mem_cons.mp named
    exact (LinesLex.cons lineLexes_empty (linesLex_definition here)).append (ih later)

theorem readDefinitions_tokens {definitions : List Definition}
    (named : ∀ d ∈ definitions, d.Named) {left : Nat} (enough : definitions.length ≤ left) :
    readDefinitions left (definitions.flatMap Definition.tokens) = some definitions := by
  induction definitions generalizing left with
  | nil => cases left <;> rfl
  | cons d rest ih =>
    obtain ⟨here, later⟩ := List.forall_mem_cons.mp named
    obtain _ | left := left
    · cases enough
    · simp only [List.flatMap_cons, Definition.tokens, List.cons_append, List.append_assoc,
        List.nil_append]
      rw [readDefinitions, readItems_tokens here.items (by simp)]
      simp only [Option.bind_eq_bind, Option.bind_some]
      rw [ih later (Nat.le_of_succ_le_succ enough)]
      rfl

/-! ### The whole -/

def Body.tokens (body : Body) : List Token :=
  .mark "\x7b" :: (itemTokens body.root ++ .mark "\x7d" :: .mark "\x7d"
    :: body.definitions.flatMap Definition.tokens)

theorem linesLex_body {body : Body} (named : body.Named) : LinesLex body.lines body.tokens := by
  have first : LineLexes " \x7b" [.mark "\x7b"] :=
    lexes_blank.append (lexes_open.append lexes_break)
  have root := (linesLex_items named.root).indent.indent
  have ends := LinesLex.cons lineLexes_close.indent (.single lineLexes_close)
  have whole := LinesLex.cons first
    ((root.append ends).append (linesLex_definitions named.definitions))
  simpa [Body.lines, Body.tokens, Function.comp_def, String.append_assoc] using whole

theorem length_le_length_flatMap_tokens (definitions : List Definition) :
    definitions.length ≤ (definitions.flatMap Definition.tokens).length := by
  induction definitions with
  | nil => exact Nat.le_refl _
  | cons d rest ih => simp only [List.flatMap_cons, List.length_append, Definition.tokens,
      List.length_cons]; omega

theorem readTokens_tokens {body : Body} (named : body.Named) :
    Body.readTokens body.tokens = some body := by
  simp only [Body.readTokens, Body.tokens]
  rw [readItems_tokens named.root (by simp)]
  simp only [Option.bind_eq_bind, Option.bind_some]
  rw [readDefinitions_tokens named.definitions (length_le_length_flatMap_tokens _)]
  rfl

theorem read_lines {body : Body} (named : body.Named) :
    Body.read (Text.unlines body.lines) = some body := by
  rw [Body.read, tokens?_unlines (linesLex_body named) (List.cons_ne_nil _ _)]
  exact readTokens_tokens named

/-- Fields that hold others are told from those that do not by what follows their names. -/
example : Body.read " \x7b ...A \x7d \x7d fragment A on T \x7b id owner \x7b ...A \x7d \x7d" =
    some ⟨[.spread "A"], [⟨"A", "T", [.leaf "id", .nested "owner" [.spread "A"]]⟩]⟩ := rfl

end GraphqlRequests.Document
