import GraphqlRequests.Proofs.Source.Blocks
import GraphqlRequests.Proofs.Source.Docstring
import GraphqlRequests.Proofs.Source.Expressions
import GraphqlRequests.Proofs.Source.Statements

/-!
# Lines of statements

Lines with a statement each, and lists of lines that hold statements and their blocks.
-/

namespace GraphqlRequests.Source

variable {width : Nat} {line name type value text : String} {lexemes others : List Lexeme}
variable {depth : Nat} {shape : Shape}

/-! ### Lines without tokens -/

theorem silent_nil : Silent [] :=
  fun _ => .nil

theorem silent_empty : Silent [""] :=
  fun _ => lays_empty

theorem silent_comment {comment : List Char} (chars : line.toList = List.replicate width ' ' ++ '#' :: comment)
    (oneLine : '\n' ∉ comment) (plain : '\r' ∉ comment) : Silent [line] := by
  intro opened
  have whole : charsOf [line] = List.replicate width ' ' ++ '#' :: comment ++ ['\n'] := by
    rw [charsOf_eq]
    · simp [chars]
    · simp [chars, plain]
  rw [whole]
  exact lays_comment oneLine

/-! ### Lines with a statement -/

theorem logical_of_toList (chars : line.toList = List.replicate width ' ' ++ spelled lexemes)
    (starts : lexemes.head?.any Lexeme.starts = true) (spells : Spells lexemes Literal.mostBrackets) :
    Logical width [line] lexemes where
  chars := by
    rw [charsOf_eq]
    · simp [chars]
    · have plain := carriage_notMem_spelled spells.legal
      simp [chars, plain]
  starts := starts
  legal := spells.legal
  apart := spells.apart
  closed := spells.nested [] (by simp)

def Line (width : Nat) (line : String) : Prop :=
  ∃ lexemes, Logical width [line] lexemes ∧ IsStatement (tokensOf lexemes ++ [.newline])

theorem line_assignment (name : String) (legal : isName name = true) (expresses : Expresses value Literal.mostBrackets)
    (chars : line.toList = List.replicate width ' ' ++ (name ++ " = " ++ value).toList) :
    Line width line := by
  obtain ⟨lexemes, shape, text, phrase⟩ := expresses
  have named : Phrase [.word name] Literal.mostBrackets .name := phrase_word legal
  refine ⟨[.word name] ++ ([.blank, .symbol "=", .blank] ++ lexemes), logical_of_toList ?_ ?_ ?_, ?_⟩
  · simp [chars, text, Lexeme.chars]
  · rfl
  · exact named.toSpells.marked _ phrase.toSpells rfl (by simp [marks])
  · exact isStatement_assignment (isName_iff.mp legal).2 phrase.heads

theorem line_annotated (legal : isName name = true) (typed : Expresses type Literal.mostBrackets)
    (expresses : Expresses value Literal.mostBrackets)
    (chars : line.toList = List.replicate width ' ' ++ (name ++ ": " ++ type ++ " = " ++ value).toList) :
    Line width line := by
  obtain ⟨lexemes, shape, text, phrase⟩ := expresses
  obtain ⟨before, kind, written, annotation⟩ := typed
  have named : Phrase [.word name] Literal.mostBrackets .name := phrase_word legal
  have assigned := annotation.toSpells.marked [.blank, .symbol "=", .blank] phrase.toSpells
    annotation.ends (by simp [marks])
  refine ⟨[.word name] ++ ([.symbol ":", .blank] ++ (before ++ ([.blank, .symbol "=", .blank] ++ lexemes))),
    logical_of_toList ?_ ?_ ?_, ?_⟩
  · simp [chars, text, written, Lexeme.chars]
  · rfl
  · exact named.toSpells.marked _ assigned rfl (by simp [marks])
  · have tokens : tokensOf ([.word name] ++ ([.symbol ":", .blank]
        ++ (before ++ ([.blank, .symbol "=", .blank] ++ lexemes))))
        = .name name :: .symbol ":" :: (tokensOf before ++ .symbol "=" :: tokensOf lexemes) := by
      simp [Lexeme.token?]
    rw [tokens]
    exact isStatement_annotated (isName_iff.mp legal).2 annotation.heads phrase.heads

theorem line_return (expresses : Expresses value Literal.mostBrackets)
    (chars : line.toList = List.replicate width ' ' ++ ("return " ++ value).toList) :
    Line width line := by
  obtain ⟨lexemes, shape, text, phrase⟩ := expresses
  have word : Spells [.word "return"] Literal.mostBrackets := .word (by decide)
  refine ⟨[.word "return"] ++ .blank :: lexemes, logical_of_toList ?_ ?_ ?_, ?_⟩
  · simp [chars, text, Lexeme.chars]
  · rfl
  · exact word.separated phrase.toSpells
  · exact isStatement_return phrase.heads

theorem logical_docstring (chars : line.toList
      = List.replicate width ' ' ++ ("\"\"\"" ++ Text.docstring text ++ "\"\"\"").toList) :
    Logical width [line]
      [.literal (tripleQuoted (Text.docstringChars (Text.normalizeBreaks text.toList)))] where
  chars := by
    have shown : line.toList ++ ['\n'] = (List.replicate width ' ' ++ ['"', '"', '"'])
        ++ (Text.docstringChars text.toList ++ ['"', '"', '"', '\n']) := by
      simp [chars, Text.docstring]
    have quotes : Text.normalizeBreaks ['"', '"', '"', '\n'] = ['"', '"', '"', '\n'] := by decide
    have blanks : Text.normalizeBreaks (List.replicate width ' ' ++ ['"', '"', '"'])
        = List.replicate width ' ' ++ ['"', '"', '"'] :=
      Text.normalizeBreaks_eq_self (by simp)
    have ends : Text.normalizeBreaks (Text.docstringChars text.toList ++ ['"', '"', '"', '\n'])
        = Text.normalizeBreaks (Text.docstringChars text.toList)
          ++ Text.normalizeBreaks ['"', '"', '"', '\n'] :=
      Text.normalizeBreaks_append (.inr (by simp))
    rw [charsOf, List.flatMap_singleton, shown, Text.normalizeBreaks_append (.inl (by simp)), blanks,
      ends, quotes, docstringChars_normalizeBreaks]
    simp [tripleQuoted, Lexeme.chars]
  starts := rfl
  legal := by
    simp only [List.mem_singleton, forall_eq]
    exact legal_docstringChars (Text.carriage_notMem_normalizeBreaks _)
  apart := .singleton _
  closed := rfl

theorem line_docstring (text : String) (chars : line.toList
      = List.replicate width ' ' ++ ("\"\"\"" ++ Text.docstring text ++ "\"\"\"").toList) :
    Line width line :=
  ⟨_, logical_docstring chars, isStatement_expression heads_text fun pattern => by cases pattern⟩

/-! ### Heads of blocks -/

def headed (keyword name : String) (inside : List Lexeme) : List Lexeme :=
  [.word keyword] ++ .blank :: [.word name] ++ .bracket '(' :: (inside ++ [.bracket ')'])

theorem spells_headed (keyword : String) {inside : List Lexeme}
    (first : isWordText keyword.toList = true) (named : isWordText name.toList = true)
    (spells : Spells inside depth) : Spells (headed keyword name inside) (depth + 1) := by
  have words : Spells ([.word keyword] ++ .blank :: [.word name]) (depth + 1) :=
    (Spells.word first).separated (.word named)
  refine words.append (spells.enclose (by decide)) fun l _ other next => ?_
  obtain rfl : Lexeme.bracket '(' = other := by simpa using next
  exact l.apart_bracket '('

theorem ends_headed (keyword name : String) (inside : List Lexeme) :
    (headed keyword name inside).getLast?.any Lexeme.firm = true :=
  getLast?_enclosed _ _ _ _

theorem Spells.colon (spells : Spells lexemes depth)
    (ends : lexemes.getLast?.any Lexeme.firm = true) : Spells (lexemes ++ [.symbol ":"]) depth := by
  refine spells.append ?_ fun l last other next => ?_
  · exact .plain (by simp [Lexeme.Legal, Lexer.spelledSymbols]) (.singleton _) rfl
  · obtain rfl : Lexeme.symbol ":" = other := by simpa using next
    exact Lexeme.apart_symbol (forall_firm ends l last) _

theorem logical_class {inside : List Lexeme} (named : isWordText name.toList = true)
    (spells : Spells inside 0)
    (chars : line.toList = List.replicate width ' ' ++ ("class " ++ name ++ "(").toList
      ++ spelled inside ++ "):".toList) :
    Logical width [line] (headed "class" name inside ++ [.symbol ":"]) := by
  have whole := (spells_headed "class" (by decide) named spells).colon
    (ends_headed _ _ _)
  refine logical_of_toList ?_ rfl (whole.mono (by decide))
  simp [chars, headed, Lexeme.chars]

theorem logical_def {inside result : List Lexeme} (named : isWordText name.toList = true)
    (spells : Spells inside 1) (phrase : Phrase result Literal.mostBrackets shape)
    (chars : line.toList = List.replicate width ' ' ++ ("def " ++ name ++ "(").toList
      ++ spelled inside ++ ") -> ".toList ++ spelled result ++ ":".toList) :
    Logical width [line]
      (headed "def" name inside ++ ([.blank, .symbol "->", .blank] ++ result) ++ [.symbol ":"]) := by
  have front := (spells_headed "def" (by decide) named spells).mono
    (by decide : 1 + 1 ≤ Literal.mostBrackets)
  have arrow := front.marked [.blank, .symbol "->", .blank] phrase.toSpells (ends_headed _ _ _)
    (by simp [marks])
  have ends : (headed "def" name inside
      ++ ([Lexeme.blank, .symbol "->", .blank] ++ result)).getLast?.any Lexeme.firm = true := by
    have last := phrase.ends
    cases final : result.getLast? with
    | none =>
      rw [final] at last
      cases last
    | some l =>
      rw [final] at last
      rw [← List.append_assoc, List.getLast?_append, final]
      exact last
  refine logical_of_toList ?_ rfl (arrow.colon ends)
  simp [chars, headed, Lexeme.chars]

/-! ### Lists of lines -/

/-- In the block `outer` the lines are statements. -/
def Holds (outer : List Nat) (lines : List String) : Prop :=
  ∃ body : List (List Token), (∀ s ∈ body, IsStatement s) ∧ Sheds outer lines body.flatten

/-- Below a line of the block `outer` the lines are the statements of a block of their own. -/
def HoldsBelow (outer : List Nat) (width : Nat) (lines : List String) : Prop :=
  ∃ first body, (∀ s ∈ first :: body, IsStatement s) ∧
    Opens outer width lines (first :: body).flatten

variable {outer : List Nat} {lines more : List String}

theorem Silent.holds (silent : Silent lines) : Holds outer lines :=
  ⟨[], by simp, silent.sheds⟩

theorem IsStatement.holds {tokens : List Token} (isStatement : IsStatement tokens)
    (sheds : Sheds outer lines tokens) : Holds outer lines :=
  ⟨[tokens], List.forall_mem_singleton.mpr isStatement, by rwa [List.flatten_singleton]⟩

theorem Logical.holds (logical : Logical width lines lexemes) (level : base outer = width)
    (isStatement : IsStatement (tokensOf lexemes ++ [.newline])) : Holds outer lines :=
  isStatement.holds (logical.sheds level)

theorem Line.holds (isLine : Line width line) (level : base outer = width) :
    Holds outer [line] := by
  obtain ⟨lexemes, logical, isStatement⟩ := isLine
  exact logical.holds level isStatement

namespace Holds

theorem append (first : Holds outer lines) (second : Holds outer more) :
    Holds outer (lines ++ more) := by
  obtain ⟨body, each, sheds⟩ := first
  obtain ⟨others, all, sheds'⟩ := second
  refine ⟨body ++ others, fun s member => (List.mem_append.mp member).elim (each s) (all s), ?_⟩
  rw [List.flatten_append]
  exact sheds.append sheds'

theorem cons (first : Line width line) (level : base outer = width) (rest : Holds outer lines) :
    Holds outer (line :: lines) :=
  (first.holds level).append rest

theorem empty (rest : Holds outer lines) : Holds outer ("" :: lines) :=
  silent_empty.holds.append rest

theorem flatMap {α : Type} {items : List α} {shown : α → List String}
    (each : ∀ item ∈ items, Holds outer (shown item)) : Holds outer (items.flatMap shown) := by
  induction items with
  | nil => exact silent_nil.holds
  | cons item items ih =>
    obtain ⟨here, later⟩ := List.forall_mem_cons.mp each
    exact here.append (ih later)

theorem of_lines (each : ∀ line ∈ lines, Line width line) (level : base outer = width) :
    Holds outer lines := by
  induction lines with
  | nil => exact silent_nil.holds
  | cons line lines ih =>
    obtain ⟨here, later⟩ := List.forall_mem_cons.mp each
    exact cons here level (ih later)

theorem block {lexemes : List Lexeme} {further : Nat} (head : Logical width lines lexemes)
    (level : base outer = width) (deeper : width < further) (below : HoldsBelow outer further more)
    (isStatement : ∀ first body, (∀ s ∈ first :: body, IsStatement s) → IsStatement (tokensOf lexemes
      ++ .newline :: .indent :: ((first :: body).flatten ++ [.dedent]))) :
    Holds outer (lines ++ more) := by
  obtain ⟨first, body, each, opens⟩ := below
  exact (isStatement first body each).holds (head.sheds_block level deeper opens)

end Holds

theorem Line.below (isLine : Line width line) (deeper : base outer < width)
    (few : outer.length + 1 < Lexer.mostBlocks) (rest : Holds (width :: outer) lines) :
    HoldsBelow outer width (line :: lines) := by
  obtain ⟨lexemes, logical, isStatement⟩ := isLine
  obtain ⟨body, each, sheds⟩ := rest
  exact ⟨_, body, List.forall_mem_cons.mpr ⟨isStatement, each⟩,
    (logical.opens deeper few).append sheds⟩

theorem Silent.below (silent : Silent lines) (below : HoldsBelow outer width more) :
    HoldsBelow outer width (lines ++ more) := by
  obtain ⟨first, body, each, opens⟩ := below
  exact ⟨first, body, each, silent.opens opens⟩

end GraphqlRequests.Source
