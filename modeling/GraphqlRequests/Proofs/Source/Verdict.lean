import GraphqlRequests.Proofs.Source.Lines
import GraphqlRequests.Proofs.Source.Suffix

/-!
# Lines that make a module or keep a text from being one

A text is a module if its lines hold statements. The first lines that hold none, such as those of a
class without a legal name or a body, keep it from being one, whatever comes after them.
-/

namespace GraphqlRequests.Source

variable {lines more before : List String} {line name : String} {good fine : Prop}

def textOf (lines : List String) : String :=
  String.join (lines.map (· ++ "\n"))

theorem isModule_of_holds (nonempty : lines ≠ []) (holds : Holds [] lines) :
    isModule (textOf lines) = true := by
  obtain ⟨body, each, sheds⟩ := holds
  rw [isModule, textOf, tokens?_of_sheds nonempty sheds]
  exact statements_depthFor each

/-! ### What comes next -/

/-- Where no block is open the lines start none at once. -/
def Flush (lines : List String) : Prop :=
  ∀ n tokens final, 2 * (charsOf lines).length ≤ n →
    Lexer.run n ⟨[], [], true, tokens⟩ (charsOf lines) = some final → Lexer.GoesOn tokens final

namespace Flush

theorem nil : Flush [] := by
  intro n tokens final _ ran
  cases n with
  | zero => simp [Lexer.run] at ran
  | succ n =>
    rw [charsOf, List.flatMap_nil, Lexer.run] at ran
    exact .inl (Option.some.inj ran ▸ rfl)

theorem silent (silent : Silent lines) (flush : Flush more) : Flush (lines ++ more) := by
  intro n tokens final enough ran
  rw [charsOf_append] at enough ran
  obtain ⟨fuel, less, steps⟩ := silent [] tokens (charsOf more)
  obtain ⟨m, rfl⟩ : ∃ m, n = m + fuel := ⟨n - fuel, by omega⟩
  have after := steps m
  rw [List.map_nil] at after
  rw [after] at ran
  exact flush m tokens final (by omega) ran

theorem cons {c : Char} {rest : List Char} (chars : line.toList = c :: rest)
    (other : c ∉ [' ', '\t', '\x0c', '\\', '#', '\n', '\r']) : Flush (line :: lines) := by
  intro n tokens final enough ran
  simp only [List.mem_cons, List.not_mem_nil, or_false, not_or] at other
  obtain ⟨tail, whole⟩ : ∃ tail, charsOf (line :: lines) = c :: tail := by
    refine ⟨Text.normalizeBreaks (rest ++ ['\n']) ++ charsOf lines, ?_⟩
    have single : Text.normalizeBreaks ([c] ++ (rest ++ ['\n']))
        = [c] ++ Text.normalizeBreaks (rest ++ ['\n']) := by
      rw [Text.normalizeBreaks_append (.inl (by simpa using other.2.2.2.2.2.2)),
        Text.normalizeBreaks_eq_self (by simpa using Ne.symm other.2.2.2.2.2.2)]
    rw [charsOf, List.flatMap_cons, ← charsOf, chars]
    exact congrArg (· ++ charsOf lines) single
  rw [whole] at enough ran
  rw [List.length_cons] at enough
  obtain ⟨m, rfl⟩ : ∃ m, n = m + 1 := ⟨n - 1, by omega⟩
  have none : ∀ w ∈ ([] : List Nat), base [] < w := by simp
  have same : Indents [] 0 [] [] := indents_base none
  have started : Lexer.startLine ⟨[], [], true, tokens⟩ (c :: tail)
      = some (⟨[], [], false, tokens⟩, c :: tail) :=
    startLine_eq same (by simp [other])
  rw [run_margin rfl (by simp) started] at ran
  have goesOn := Lexer.goesOn_run rfl ran
  exact goesOn

end Flush

/-! ### Refused lines -/

/-- Statements before the lines make no module with them, whatever comes after them. -/
def Refused (lines : List String) : Prop :=
  ∀ before after, Holds [] before → Flush after →
    isModule (textOf (before ++ (lines ++ after))) = false

theorem isModule_of_refuses (holds : Holds [] before) (nonempty : lines ≠ [])
    (refused : ∀ n inner tokens final, (∀ w ∈ inner, 0 < w) → 2 * (charsOf lines).length + 16 ≤ n →
      Lexer.run n ⟨[], inner.map margin, true, tokens⟩ (charsOf lines) = some final →
      ∃ rest, final.tokens.reverse ++ final.margins.map (fun _ => .dedent)
        = tokens.reverse ++ (dedents inner ++ rest) ∧ Refuses rest) :
    isModule (textOf (before ++ lines)) = false := by
  obtain ⟨body, each, sheds⟩ := holds
  obtain ⟨read, inner, deep, lays, whole⟩ := sheds [] (by simp)
  obtain ⟨fuel, less, steps⟩ := lays [] (charsOf lines)
  rw [← charsOf_append] at less steps
  rw [List.append_nil] at steps
  -- What the lines before take of the fuel leaves enough for the lines behind them.
  obtain ⟨n, enough⟩ : ∃ n, 4 * (charsOf (before ++ lines)).length + 16 = n + fuel :=
    ⟨4 * (charsOf (before ++ lines)).length + 16 - fuel, by omega⟩
  have ends : (charsOf (before ++ lines)).getLast? = some '\n' :=
    getLast?_charsOf (by simp [nonempty])
  rw [isModule, textOf, tokens?, normalizeBreaks_join, endLastLine, if_pos ends, enough]
  have start : Lexer.run (n + fuel) {} (charsOf (before ++ lines))
      = Lexer.run n ⟨[], inner.map margin, true, read.reverse⟩ (charsOf lines) := by
    simpa using steps n
  rw [start]
  cases ran : Lexer.run n ⟨[], inner.map margin, true, read.reverse⟩ (charsOf lines) with
  | none => rfl
  | some final =>
    obtain ⟨rest, tokens, refuses⟩ := refused n inner read.reverse final deep
      (by rw [charsOf_append, List.length_append] at *; omega) ran
    rw [List.reverse_reverse, ← List.append_assoc, whole] at tokens
    have verdict := refuses.statements_depthFor each
    simp only [Option.bind_eq_bind, Option.bind_some]
    split
    · next brackets =>
      split at brackets
      · cases brackets
      · rw [← Option.some.inj brackets, tokens]
        exact verdict
    · rfl

/-! ### Classes without a name or a body -/

/-- The text is a word, perhaps a keyword, or would be one but for a digit at its start. -/
def Wordlike (name : String) : Prop :=
  isWordText name.toList = true ∨
    ∃ c rest, name.toList = c :: rest ∧ c.isDigit = true ∧ ∀ d ∈ rest, inWord d = true

namespace Wordlike

theorem exists_cons (wordlike : Wordlike name) :
    ∃ c rest, name.toList = c :: rest ∧ ∀ d ∈ c :: rest, inWord d = true := by
  rcases wordlike with isWord | ⟨c, rest, chars, digit, inside⟩
  · obtain ⟨c, rest, chars, -⟩ := forall_inWord_of_isWordText isWord
    exact ⟨c, rest, chars, chars ▸ inWord_of_isWordText isWord⟩
  · refine ⟨c, rest, chars, List.forall_mem_cons.mpr ⟨?_, inside⟩⟩
    simp [inWord, Char.isAlphanum, digit]

theorem carriage_notMem (wordlike : Wordlike name) : '\r' ∉ name.toList := by
  obtain ⟨c, rest, chars, inside⟩ := wordlike.exists_cons
  rw [chars]
  intro member
  cases inside _ member

theorem keyword_or_digit (wordlike : Wordlike name) (illegal : isName name = false) :
    isWordText name.toList = true ∧ name ∈ Naming.keywords ∨
      ∃ c rest, name.toList = c :: rest ∧ c.isDigit = true := by
  rcases wordlike with isWord | ⟨c, rest, chars, digit, -⟩
  · rw [isName, isWord, Bool.true_and, decide_eq_false_iff_not, not_not] at illegal
    exact .inl ⟨isWord, illegal⟩
  · exact .inr ⟨c, rest, chars, digit⟩

end Wordlike

theorem Wordlike.flush (wordlike : Wordlike name) (more : String) (lines : List String) :
    Flush ((name ++ more) :: lines) := by
  obtain ⟨c, rest, chars, inside⟩ := wordlike.exists_cons
  have word := inside c List.mem_cons_self
  have differs : ∀ other, inWord other = false → c ≠ other := fun _ => ne_of_inWord word
  have whole : (name ++ more).toList = c :: (rest ++ more.toList) := by simp [chars]
  refine .cons whole ?_
  simp only [List.mem_cons, List.not_mem_nil, or_false, not_or]
  exact ⟨differs _ rfl, differs _ rfl, differs _ rfl, differs _ rfl, differs _ rfl, differs _ rfl,
    differs _ rfl⟩

theorem suffix_of_illegal (wordlike : Wordlike name) (illegal : isName name = false) {n : Nat}
    {tokens : List Token} {final : Lexer}
    {rest : List Char} (enough : 2 * (name.toList ++ '(' :: rest).length ≤ n)
    (ran : Lexer.run n ⟨[], [], false, tokens⟩ (name.toList ++ '(' :: rest) = some final) :
    ∃ token, token :: tokens <:+ final.tokens ∧ ∀ more, Source.name (token :: more) = none := by
  -- A keyword is read as a name that is refused, and a digit starts a number.
  rcases wordlike.keyword_or_digit illegal with ⟨isWord, keyword⟩ | ⟨c, others, chars, digit⟩
  · obtain ⟨fuel, less, steps⟩ : Lexer.Steps ⟨[], [], false, tokens⟩ (name.toList ++ '(' :: rest)
        ⟨[], [], false, .name (String.ofList name.toList) :: tokens⟩ ('(' :: rest) :=
      Lexer.steps_word isWord rfl (by decide) (by decide)
    obtain ⟨m, rfl⟩ : ∃ m, n = m + fuel := ⟨n - fuel, by omega⟩
    rw [steps] at ran
    refine ⟨_, Lexer.suffix_run ran, fun more => ?_⟩
    rw [String.ofList_toList, Source.name, if_pos keyword]
  · rw [chars, List.cons_append] at ran enough
    rw [List.length_cons] at enough
    obtain ⟨m, rfl⟩ : ∃ m, n = m + 1 := ⟨n - 1, by omega⟩
    have differs : ∀ other : Char, other.isDigit = false → c ≠ other := by
      rintro other no rfl
      rw [digit] at no
      cases no
    have bracket : "()[]\x7b\x7d".toList.contains c = false := by
      simp [differs '(' rfl, differs ')' rfl, differs '[' rfl, differs ']' rfl, differs '{' rfl,
        differs '}' rfl]
    rw [Lexer.run] at ran
    simp only [differs ' ' rfl, differs '\t' rfl, differs '\x0c' rfl, differs '\n' rfl,
      differs '#' rfl, differs '\\' rfl, differs '"' rfl, differs '\'' rfl, bracket, digit,
      decide_false, Bool.or_false, Bool.true_or, Bool.false_eq_true, if_false, if_true] at ran
    obtain ⟨⟨imaginary, after⟩, -, ran⟩ := Option.bind_eq_some_iff.mp ran
    exact ⟨.number imaginary, Lexer.suffix_run ran, fun more => rfl⟩

theorem refused_className {rest : List Char} (wordlike : Wordlike name) (illegal : isName name = false)
    (chars : line.toList = "class ".toList ++ (name.toList ++ '(' :: rest))
    (plain : '\r' ∉ line.toList) : Refused (line :: lines) := by
  intro before after holds flush
  refine isModule_of_refuses holds (by simp) fun n inner tokens final deep enough ran => ?_
  let left := name.toList ++ '(' :: (rest ++ '\n' :: charsOf (lines ++ after))
  have whole : charsOf (line :: lines ++ after) = "class".toList ++ ' ' :: left := by
    have single : charsOf [line] = line.toList ++ ['\n'] := by
      rw [charsOf_eq (by simpa using plain)]
      simp
    rw [List.cons_append, ← List.singleton_append, charsOf_append, single, chars]
    simp [left]
  let read := (dedents inner).reverse ++ tokens
  -- The first word is read as it should be: it is the name behind it that is refused.
  have keyword : Lexer.Steps ⟨[], [], false, read⟩ ("class".toList ++ ' ' :: left)
      ⟨[], [], false, .name "class" :: read⟩ left :=
    (Lexer.steps_word (by decide) rfl (by decide) (by decide)).trans Lexer.steps_blank
  obtain ⟨fuel, less, steps⟩ := keyword
  rw [whole] at ran enough
  obtain ⟨m, rfl⟩ : ∃ m, n = m + fuel + 1 := ⟨n - fuel - 1, by omega⟩
  have started : Lexer.startLine ⟨[], (inner ++ []).map margin, true, tokens⟩
      ("class".toList ++ ' ' :: left) = some (⟨[], [], false, read⟩, "class".toList ++ ' ' :: left) :=
    startLine_eq (indents_base deep) (by decide)
  rw [List.append_nil] at started
  rw [run_margin rfl (by simp) started, steps] at ran
  have room : 2 * left.length ≤ m := by omega
  obtain ⟨token, ⟨others, all⟩, refused⟩ := suffix_of_illegal wordlike illegal room ran
  refine ⟨.name "class" :: token :: (others.reverse ++ final.margins.map fun _ => .dedent), ?_,
    refuses_className (refused _)⟩
  rw [← all]
  simp [read]

theorem refused_emptyClass {lexemes : List Lexeme} (logical : Logical 0 [line] lexemes)
    (refuses : ∀ rest : List Token, rest.head? ≠ some .indent →
      Refuses (tokensOf lexemes ++ .newline :: rest)) : Refused [line] := by
  intro before after holds flush
  refine isModule_of_refuses holds (by simp) fun n inner tokens final deep enough ran => ?_
  have lays : Lays (inner ++ []) (charsOf [line]) _ [] := logical.lays (indents_base deep)
  obtain ⟨fuel, less, steps⟩ := lays tokens (charsOf after)
  rw [List.append_nil, List.map_nil] at steps
  rw [charsOf_append] at ran enough
  obtain ⟨m, rfl⟩ : ∃ m, n = m + fuel := ⟨n - fuel, by omega⟩
  rw [steps] at ran
  rcases flush m _ final (by omega) ran with same | ⟨token, other, others, all⟩
  · refine ⟨_, ?_, refuses (final.margins.map fun _ => .dedent) (by cases final.margins <;> simp)⟩
    rw [same]
    simp
  · refine ⟨_, ?_, refuses (token :: (others.reverse ++ final.margins.map fun _ => .dedent))
      (by simpa using other)⟩
    rw [← all]
    simp

/-! ### Verdicts -/

/-- After statements the lines hold statements where all is good, and keep the text from being a
module where it is not. -/
structure Decides (lines : List String) (good : Prop) : Prop where
  holds : good → Holds [] lines
  refused : ¬good → Refused lines
  flush : ∀ more, Flush more → Flush (lines ++ more)

theorem Refused.append_left (refused : Refused more) (holds : Holds [] lines) : Refused (lines ++ more) := by
  intro before after statements flush
  have verdict := refused (before ++ lines) after (statements.append holds) flush
  simpa using verdict

theorem Refused.append_right (refused : Refused lines) (flush : ∀ after, Flush after → Flush (more ++ after)) :
    Refused (lines ++ more) := by
  intro before after statements here
  have verdict := refused before (more ++ after) statements (flush after here)
  simpa using verdict

namespace Decides

theorem of_silent (silent : Silent lines) : Decides lines True where
  holds _ := silent.holds
  refused none := absurd trivial none
  flush _ flush := flush.silent silent

theorem append (first : Decides lines good) (second : Decides more fine) :
    Decides (lines ++ more) (good ∧ fine) where
  holds both := (first.holds both.1).append (second.holds both.2)
  refused none := by
    by_cases here : good
    · exact (second.refused fun later => none ⟨here, later⟩).append_left (first.holds here)
    · exact (first.refused here).append_right second.flush
  flush after flush := by
    rw [List.append_assoc]
    exact first.flush _ (second.flush after flush)

theorem extend (decides : Decides lines good) (holds : good → Holds [] more)
    (flush : ∀ after, Flush after → Flush (more ++ after)) : Decides (lines ++ more) good where
  holds here := (decides.holds here).append (holds here)
  refused none := (decides.refused none).append_right flush
  flush after here := by
    rw [List.append_assoc]
    exact decides.flush _ (flush after here)

theorem congr (decides : Decides lines good) (same : good ↔ fine) : Decides lines fine :=
  propext same ▸ decides

theorem flatMap {α : Type} {items : List α} {shown : α → List String} {fits : α → Prop}
    (each : ∀ item ∈ items, Decides (shown item) (fits item)) :
    Decides (items.flatMap shown) (∀ item ∈ items, fits item) := by
  induction items with
  | nil => exact (of_silent silent_nil).congr (by simp)
  | cons item items ih =>
    obtain ⟨here, later⟩ := List.forall_mem_cons.mp each
    exact (here.append (ih later)).congr List.forall_mem_cons.symm

theorem isModule_iff (decides : Decides lines good) (nonempty : lines ≠ []) :
    isModule (textOf lines) = true ↔ good := by
  refine ⟨fun legal => ?_, fun here => isModule_of_holds nonempty (decides.holds here)⟩
  by_contra none
  have verdict := decides.refused none [] [] silent_nil.holds .nil
  rw [List.nil_append, List.append_nil, legal] at verdict
  cases verdict

end Decides

/-! ### Classes -/

structure StartsClass (line name : String) (first : List Lexeme) (items : List (List Lexeme)) :
    Prop where
  bases : ∀ item ∈ first :: items, Given 0 .any item
  chars : line.toList
    = ("class " ++ name ++ "(").toList ++ spelled (first ++ spaced items) ++ "):".toList

namespace StartsClass

variable {first : List Lexeme} {items : List (List Lexeme)}
variable (starts : StartsClass line name first items)
include starts

theorem spells : Spells (first ++ spaced items) 0 :=
  spells_listed fun item member => (starts.bases item member).spells

theorem arguments : ∀ tokens ∈ tokensOf first :: items.map tokensOf, Argument .any tokens := by
  rw [← List.map_cons]
  exact List.forall_mem_map.mpr fun item member => (starts.bases item member).argument

theorem logical (isWord : isWordText name.toList = true) :
    Logical 0 [line] (headed "class" name (first ++ spaced items) ++ [.symbol ":"]) :=
  logical_class isWord starts.spells (by simpa using starts.chars)

omit starts in
theorem tokensOf_eq (rest : List Token) :
    tokensOf (headed "class" name (first ++ spaced items) ++ [.symbol ":"]) ++ .newline :: rest
      = .name "class" :: .name name :: .symbol "(" :: (tokensOf first
        ++ (commaed (items.map tokensOf) ++ .symbol ")" :: .symbol ":" :: .newline :: rest)) := by
  have inside := tokensOf_spaced items
  simp [headed, Lexeme.token?, inside]

theorem refused (wordlike : Wordlike name) (illegal : isName name = false) (body : List String) :
    Refused (line :: body) := by
  have plain : '\r' ∉ line.toList := by
    have inside := carriage_notMem_spelled starts.spells.legal
    rw [spelled_append, List.mem_append, not_or] at inside
    rw [starts.chars]
    simp [wordlike.carriage_notMem, inside]
  have chars : line.toList = "class ".toList
      ++ (name.toList ++ '(' :: (spelled (first ++ spaced items) ++ "):".toList)) := by
    rw [starts.chars]
    simp
  exact refused_className wordlike illegal chars plain

theorem flush (body : List String) : Flush (line :: body) := by
  have chars : line.toList = 'c' :: ("lass ".toList ++ name.toList ++ "(".toList
      ++ spelled (first ++ spaced items) ++ "):".toList) := by
    rw [starts.chars]
    simp
  exact .cons chars (by decide)

theorem decides {body : List String} (wordlike : Wordlike name) (below : HoldsBelow [] 4 body) :
    Decides (line :: body) (isName name = true) where
  holds named := by
    obtain ⟨isWord, legal⟩ := isName_iff.mp named
    refine Holds.block (starts.logical isWord) rfl (by decide) below fun first body each => ?_
    rw [tokensOf_eq]
    exact isStatement_class legal starts.arguments each
  refused illegal := starts.refused wordlike (by simpa using illegal) body
  flush _ _ := starts.flush _

theorem decides_empty (wordlike : Wordlike name) : Decides [line] False where
  holds none := none.elim
  refused _ := by
    cases named : isName name with
    | false => exact starts.refused wordlike named []
    | true =>
      obtain ⟨isWord, legal⟩ := isName_iff.mp named
      refine refused_emptyClass (starts.logical isWord) fun rest other => ?_
      rw [tokensOf_eq]
      exact refuses_class legal starts.arguments other
  flush _ _ := starts.flush _

end StartsClass

end GraphqlRequests.Source
