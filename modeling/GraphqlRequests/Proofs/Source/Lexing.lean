import GraphqlRequests.Source.Token
import Mathlib.Data.List.Chain
import Mathlib.Data.List.TakeWhile

/-!
# Lexemes of source texts

A line is spelled as a list of lexemes. The lexer reads their tokens back, where words, symbols and
literals stand apart from each other, and brackets are closed in turn and not nested too deep.
-/

namespace GraphqlRequests.Source

open Text

/-! ### Characters of words -/

theorem inWord_of_continuesName {c : Char} (continues : continuesName c = true) :
    inWord c = true := by
  simp only [continuesName, inWord, Bool.or_eq_true, decide_eq_true_eq] at continues ⊢
  split at continues
  · exact .inl (by simpa using continues)
  · exact .inr (by omega)

theorem inWord_of_startsName {c : Char} (starts : startsName c = true) : inWord c = true := by
  simp only [startsName, inWord, Char.isAlphanum, Bool.or_eq_true, decide_eq_true_eq] at starts ⊢
  split at starts
  · simp only [Bool.or_eq_true, decide_eq_true_eq] at starts
    exact .inl (starts.imp_left .inl)
  · exact .inr (by omega)

theorem not_isDigit_of_startsName {c : Char} (starts : startsName c = true) :
    c.isDigit = false := by
  rw [← Bool.not_eq_true]
  intro digit
  have ascii : c.toNat < 128 := by
    simp only [Char.isDigit, Bool.and_eq_true, decide_eq_true_eq, ge_iff_le,
      UInt32.le_iff_toNat_le] at digit
    exact Nat.lt_of_le_of_lt digit.2 (by decide)
  have each : ∀ n : Fin 128, (Char.ofNat n).isDigit = true → startsName (Char.ofNat n) = false := by
    decide
  have here := each ⟨c.toNat, ascii⟩
  simp only [Char.ofNat_toNat] at here
  rw [here digit] at starts
  cases starts

theorem ne_of_inWord {c other : Char} (inside : inWord c = true) (outside : inWord other = false) :
    c ≠ other := by
  rintro rfl
  rw [inside] at outside
  cases outside

theorem forall_inWord_of_isWordText {word : List Char} (isWord : isWordText word = true) :
    ∃ c rest, word = c :: rest ∧ startsName c = true ∧ ∀ d ∈ rest, inWord d = true := by
  cases word with
  | nil => cases isWord
  | cons c rest =>
    simp only [isWordText, Bool.and_eq_true, List.all_eq_true] at isWord
    exact ⟨c, rest, rfl, isWord.1, fun d member => inWord_of_continuesName (isWord.2 d member)⟩

theorem inWord_of_isWordText {word : List Char} (isWord : isWordText word = true) :
    ∀ c ∈ word, inWord c = true := by
  obtain ⟨c, rest, rfl, starts, words⟩ := forall_inWord_of_isWordText isWord
  exact List.forall_mem_cons.mpr ⟨inWord_of_startsName starts, words⟩

theorem notMem_of_isWordText {word : List Char} {other : Char} (isWord : isWordText word = true)
    (outside : inWord other = false) : other ∉ word :=
  fun member => ne_of_inWord (inWord_of_isWordText isWord other member) outside rfl

/-- The text is a literal without pieces of code, whatever follows it but a quote. -/
def IsLiteral (text : List Char) : Prop :=
  ∃ body, text.head?.any (fun c => c = '"' || c = '\'') = true ∧
    Literal.escapesHold false body = true ∧
    ∀ c rest, c ≠ '"' → c ≠ '\'' → Literal.body? (text ++ c :: rest) = some (body, c :: rest)

theorem IsLiteral.exists_quote {text : List Char} (isLiteral : IsLiteral text) :
    ∃ c rest, text = c :: rest ∧ (c = '"' ∨ c = '\'') := by
  obtain ⟨body, quoted, -⟩ := isLiteral
  obtain ⟨c, first, quote⟩ := (Option.any_eq_true _ _).mp quoted
  obtain ⟨rest, chars⟩ := List.head?_eq_some_iff.mp first
  exact ⟨c, rest, chars, by simpa using quote⟩

namespace Lexer

variable {lexer next last : Lexer} {chars rest left : List Char}

/-- The lexer comes to a later place in the text, with fuel for two calls for each character on the
way. -/
def Steps (lexer : Lexer) (chars : List Char) (next : Lexer) (rest : List Char) : Prop :=
  ∃ fuel, fuel + 2 * rest.length ≤ 2 * chars.length ∧
    ∀ n, run (n + fuel) lexer chars = run n next rest

theorem Steps.refl : Steps lexer chars lexer chars :=
  ⟨0, by omega, fun _ => rfl⟩

theorem Steps.trans (first : Steps lexer chars next rest) (second : Steps next rest last left) :
    Steps lexer chars last left := by
  obtain ⟨fuel, less, here⟩ := first
  obtain ⟨more, fewer, there⟩ := second
  refine ⟨more + fuel, by omega, fun n => ?_⟩
  rw [← Nat.add_assoc, here, there]

theorem Steps.of_run (shorter : rest.length < chars.length)
    (once : ∀ n, run (n + 1) lexer chars = run n next rest) : Steps lexer chars next rest :=
  ⟨1, by omega, once⟩

/-! ### Single lexemes -/

variable {brackets : List Char} {margins : List Margin} {tokens : List Token} {c : Char}

theorem steps_blank : Steps ⟨brackets, margins, false, tokens⟩ (' ' :: rest)
    ⟨brackets, margins, false, tokens⟩ rest :=
  .of_run (by simp) fun n => by simp [run]

theorem steps_break (inside : brackets ≠ []) : Steps ⟨brackets, margins, false, tokens⟩
    ('\n' :: rest) ⟨brackets, margins, false, tokens⟩ rest :=
  .of_run (by simp) fun n => by simp [run, inside]

theorem steps_word {word : List Char} (isWord : isWordText word = true) (stops : inWord c = false)
    (double : c ≠ '"') (single : c ≠ '\'') :
    Steps ⟨brackets, margins, false, tokens⟩ (word ++ c :: rest)
      ⟨brackets, margins, false, .name (String.ofList word) :: tokens⟩ (c :: rest) := by
  obtain ⟨first, others, rfl, starts, inside⟩ := forall_inWord_of_isWordText isWord
  refine .of_run (by simp only [List.length_append, List.length_cons]; omega) fun n => ?_
  have word := inWord_of_startsName starts
  have differs : ∀ other, inWord other = false → first ≠ other := fun _ => ne_of_inWord word
  have digit := not_isDigit_of_startsName starts
  have taken : (others ++ c :: rest).takeWhile inWord = others := by
    rw [List.takeWhile_append_of_pos inside, List.takeWhile_cons_of_neg (by simp [stops]),
      List.append_nil]
  have dropped : (others ++ c :: rest).dropWhile inWord = c :: rest := by
    rw [List.dropWhile_append_of_pos inside, List.dropWhile_cons_of_neg (by simp [stops])]
  -- A word starts with none of the characters that the lexer looks for before it looks for words.
  have bracket : "()[]\x7b\x7d".toList.contains first = false := by
    simp [differs _ (by decide : inWord '(' = false), differs _ (by decide : inWord ')' = false),
      differs _ (by decide : inWord '[' = false), differs _ (by decide : inWord ']' = false),
      differs _ (by decide : inWord '{' = false), differs _ (by decide : inWord '}' = false)]
  rw [List.cons_append, run]
  simp only [differs _ (by decide : inWord ' ' = false), differs _ (by decide : inWord '\t' = false),
    differs _ (by decide : inWord '\x0c' = false), differs _ (by decide : inWord '\n' = false),
    differs _ (by decide : inWord '#' = false), differs _ (by decide : inWord '\\' = false),
    differs _ (by decide : inWord '"' = false), differs _ (by decide : inWord '\'' = false),
    differs _ (by decide : inWord '.' = false), bracket, digit, word, taken, dropped, isWord, push]
  simp only [decide_false, Bool.or_false, Bool.false_and, Bool.false_eq_true, if_false, if_true]
  split
  · next same => exact absurd (List.cons.inj same).1 double
  · next same => exact absurd (List.cons.inj same).1 single
  · rfl

def spelledSymbols : List String := [".", ",", ":", "=", "->", "@"]

theorem symbol?_spelled {text : String} (spelled : text ∈ spelledSymbols) (equals : c ≠ '=')
    (dot : c ≠ '.') : symbol? (text.toList ++ c :: rest) = some (text, c :: rest) := by
  simp only [spelledSymbols, List.mem_cons, List.not_mem_nil, or_false] at spelled
  rcases spelled with rfl | rfl | rfl | rfl | rfl | rfl <;>
  · simp [symbol?, symbols, List.isPrefixOf, equals.symm, dot.symm]
    rfl

theorem steps_symbol {text : String} (spelled : text ∈ spelledSymbols) (equals : c ≠ '=')
    (dot : c ≠ '.') (digit : c.isDigit = false) :
    Steps ⟨brackets, margins, false, tokens⟩ (text.toList ++ c :: rest)
      ⟨brackets, margins, false, .symbol text :: tokens⟩ (c :: rest) := by
  have found : symbol? (text.toList ++ c :: rest) = some (text, c :: rest) :=
    symbol?_spelled spelled equals dot
  simp only [spelledSymbols, List.mem_cons, List.not_mem_nil, or_false] at spelled
  rcases spelled with rfl | rfl | rfl | rfl | rfl | rfl <;>
  · refine .of_run (by simp) fun n => ?_
    simp at found
    simp [run, inWord, found, push, digit]

def bracketsAfter (brackets : List Char) (c : Char) : Option (List Char) :=
  match Literal.opener? c with
  | some b => if brackets.head? = some b then some brackets.tail else none
  | none => if brackets.length < Literal.mostBrackets then some (c :: brackets) else none

theorem bracket?_eq : bracket? ⟨brackets, margins, false, tokens⟩ c =
    (bracketsAfter brackets c).map fun after =>
      ⟨after, margins, false, .symbol (String.singleton c) :: tokens⟩ := by
  rw [bracket?, bracketsAfter]
  cases Literal.opener? c with
  | some b =>
    cases brackets with
    | nil => rfl
    | cons b' others =>
      simp only [List.head?_cons, Option.some.injEq, eq_comm, push]
      split <;> rfl
  | none =>
    simp only [push]
    split <;> split <;> first | rfl | omega

def isBracket (c : Char) : Bool :=
  "()[]\x7b\x7d".toList.contains c

theorem steps_bracket {after : List Char} (bracket : isBracket c = true)
    (opens : bracketsAfter brackets c = some after) :
    Steps ⟨brackets, margins, false, tokens⟩ (c :: rest)
      ⟨after, margins, false, .symbol (String.singleton c) :: tokens⟩ rest := by
  refine .of_run (by simp) fun n => ?_
  have turned : bracket? ⟨brackets, margins, false, tokens⟩ c
      = some ⟨after, margins, false, .symbol (String.singleton c) :: tokens⟩ := by
    rw [bracket?_eq, opens]
    rfl
  simp [isBracket] at bracket
  rcases bracket with rfl | rfl | rfl | rfl | rfl | rfl <;> simp [run, turned]

theorem steps_literal {text : List Char} (isLiteral : IsLiteral text) (double : c ≠ '"')
    (single : c ≠ '\'') :
    Steps ⟨brackets, margins, false, tokens⟩ (text ++ c :: rest)
      ⟨brackets, margins, false, .text false :: tokens⟩ (c :: rest) := by
  obtain ⟨body, quoted, escapes, whole⟩ := isLiteral
  have read := whole c rest double single
  cases text with
  | nil => cases quoted
  | cons quote others =>
    refine ⟨2, by simp; omega, fun n => ?_⟩
    rw [List.cons_append] at read ⊢
    have plain : Literal.embedded? ⟨false, false, false⟩ body = some [] := by
      simp [Literal.embedded?, escapes]
    have literal : ∀ lexer, literal (n + 1) lexer ⟨false, false, false⟩ (quote :: (others ++ c :: rest))
        = run n (lexer.push (.text false)) (c :: rest) := by
      intro lexer
      rw [Lexer.literal]
      simp only [read, plain, Option.bind_eq_bind, Option.bind_some]
      cases n with
      | zero => rw [embed, run]; rfl
      | succ n => rw [embed]; rfl
    have opens : quote = '"' ∨ quote = '\'' := by simpa using quoted
    rcases opens with rfl | rfl <;> simp [run, literal, push]

end Lexer

/-! ### Lists of lexemes -/

/-- What lines are spelled with. A `turn` is a line break between brackets. -/
inductive Lexeme where
  | word (text : String)
  | symbol (text : String)
  | bracket (c : Char)
  | literal (text : String)
  | blank
  | turn
  deriving DecidableEq

namespace Lexeme

def chars : Lexeme → List Char
  | word text | symbol text | literal text => text.toList
  | bracket c => [c]
  | blank => [' ']
  | turn => ['\n']

def token? : Lexeme → Option Token
  | word text => some (.name text)
  | symbol text => some (.symbol text)
  | bracket c => some (.symbol (String.singleton c))
  | literal _ => some (.text false)
  | blank | turn => none

def Legal : Lexeme → Prop
  | word text => isWordText text.toList = true
  | symbol text => text ∈ Lexer.spelledSymbols
  | bracket c => Lexer.isBracket c = true
  | literal text => IsLiteral text.toList ∧ '\r' ∉ text.toList
  | blank | turn => True

def apart : Lexeme → Lexeme → Bool
  | word _, word _ | word _, literal _ | literal _, literal _ | symbol _, symbol _ => false
  | _, _ => true

def Allows (c : Char) : Lexeme → Prop
  | word _ => inWord c = false ∧ c ≠ '"' ∧ c ≠ '\''
  | symbol _ => c ≠ '=' ∧ c ≠ '.' ∧ c.isDigit = false
  | literal _ => c ≠ '"' ∧ c ≠ '\''
  | bracket _ | blank | turn => True

def bracketsAfter (brackets : List Char) : Lexeme → Option (List Char)
  | bracket c => Lexer.bracketsAfter brackets c
  | turn => if brackets = [] then none else some brackets
  | _ => some brackets

theorem bracketsAfter_bracket (brackets : List Char) (c : Char) :
    bracketsAfter brackets (.bracket c) = Lexer.bracketsAfter brackets c := rfl

theorem bracketsAfter_turn {brackets : List Char} (inside : brackets ≠ []) :
    bracketsAfter brackets .turn = some brackets :=
  if_neg inside

variable {l other : Lexeme}

theorem allows_of_outside {c : Char} (word : inWord c = false) (double : c ≠ '"') (single : c ≠ '\'')
    (equals : c ≠ '=') (dot : c ≠ '.') (l : Lexeme) : l.Allows c := by
  have digit : c.isDigit = false := by
    simp only [inWord, Char.isAlphanum, Bool.or_eq_false_iff] at word
    exact word.1.1.2
  cases l with
  | word => exact ⟨word, double, single⟩
  | symbol => exact ⟨equals, dot, digit⟩
  | literal => exact ⟨double, single⟩
  | bracket | blank | turn => trivial

theorem exists_allowed (apart : l.apart other = true) (legal : other.Legal) :
    ∃ c rest, other.chars = c :: rest ∧ l.Allows c := by
  -- Only words, literals and symbols forbid a character behind them.
  cases other with
  | word text =>
    obtain ⟨c, rest, chars, starts, -⟩ := forall_inWord_of_isWordText legal
    have word := inWord_of_startsName starts
    refine ⟨c, rest, chars, ?_⟩
    cases l with
    | word => cases apart
    | literal => exact ⟨ne_of_inWord word rfl, ne_of_inWord word rfl⟩
    | symbol =>
      exact ⟨ne_of_inWord word rfl, ne_of_inWord word rfl, not_isDigit_of_startsName starts⟩
    | bracket | blank | turn => trivial
  | symbol text =>
    simp only [Legal, Lexer.spelledSymbols, List.mem_cons, List.not_mem_nil, or_false] at legal
    have shown : ∃ c rest, text.toList = c :: rest ∧ inWord c = false ∧ c ≠ '"' ∧ c ≠ '\'' := by
      rcases legal with rfl | rfl | rfl | rfl | rfl | rfl <;> exact ⟨_, _, rfl, by decide⟩
    obtain ⟨c, rest, chars, outside⟩ := shown
    refine ⟨c, rest, chars, ?_⟩
    cases l with
    | symbol => cases apart
    | word => exact outside
    | literal => exact outside.2
    | bracket | blank | turn => trivial
  | bracket b =>
    simp [Legal, Lexer.isBracket] at legal
    refine ⟨b, [], rfl, ?_⟩
    rcases legal with rfl | rfl | rfl | rfl | rfl | rfl <;>
      exact l.allows_of_outside rfl (by decide) (by decide) (by decide) (by decide)
  | literal text =>
    obtain ⟨c, rest, chars, quote⟩ := legal.1.exists_quote
    refine ⟨c, rest, chars, ?_⟩
    cases l with
    | word | literal => cases apart
    | symbol => rcases quote with rfl | rfl <;> exact ⟨by decide, by decide, rfl⟩
    | bracket | blank | turn => trivial
  | blank => exact ⟨' ', [], rfl, l.allows_of_outside rfl (by decide) (by decide) (by decide) (by decide)⟩
  | turn => exact ⟨'\n', [], rfl, l.allows_of_outside rfl (by decide) (by decide) (by decide) (by decide)⟩

open Lexer in
/-- A legal lexeme is read, where the brackets allow for it and the next character does not go
on with it. -/
theorem steps (legal : l.Legal) {brackets after : List Char} {margins : List Margin}
    {tokens : List Token} {c : Char} {rest : List Char}
    (opens : l.bracketsAfter brackets = some after) (allows : l.Allows c) :
    Steps ⟨brackets, margins, false, tokens⟩ (l.chars ++ c :: rest)
      ⟨after, margins, false, l.token?.toList ++ tokens⟩ (c :: rest) := by
  cases l with
  | word text =>
    obtain rfl := Option.some.inj opens
    obtain ⟨stops, double, single⟩ := allows
    simpa [chars, token?] using steps_word legal stops double single
  | symbol text =>
    obtain rfl := Option.some.inj opens
    obtain ⟨equals, dot, digit⟩ := allows
    exact steps_symbol legal equals dot digit
  | bracket b => exact steps_bracket legal opens
  | literal text =>
    obtain rfl := Option.some.inj opens
    exact steps_literal legal.1 allows.1 allows.2
  | blank =>
    obtain rfl := Option.some.inj opens
    exact steps_blank
  | turn =>
    have inside : brackets ≠ [] := by
      rintro rfl
      cases opens
    rw [bracketsAfter_turn inside] at opens
    obtain rfl := Option.some.inj opens
    exact steps_break inside

end Lexeme

def spelled (lexemes : List Lexeme) : List Char :=
  lexemes.flatMap Lexeme.chars

@[simp] theorem spelled_nil : spelled [] = [] := rfl

@[simp] theorem spelled_cons (l : Lexeme) (lexemes : List Lexeme) :
    spelled (l :: lexemes) = l.chars ++ spelled lexemes :=
  List.flatMap_cons

@[simp] theorem spelled_append (lexemes others : List Lexeme) :
    spelled (lexemes ++ others) = spelled lexemes ++ spelled others :=
  List.flatMap_append

theorem Lexeme.carriage_notMem {l : Lexeme} (legal : l.Legal) : '\r' ∉ l.chars := by
  cases l with
  | word text => exact notMem_of_isWordText legal rfl
  | symbol text =>
    simp only [Legal, Lexer.spelledSymbols, List.mem_cons, List.not_mem_nil, or_false] at legal
    rcases legal with rfl | rfl | rfl | rfl | rfl | rfl <;> decide
  | bracket b =>
    simp [Legal, Lexer.isBracket] at legal
    rcases legal with rfl | rfl | rfl | rfl | rfl | rfl <;> decide
  | literal text => exact legal.2
  | blank | turn => decide

theorem carriage_notMem_spelled {lexemes : List Lexeme} (legal : ∀ l ∈ lexemes, l.Legal) :
    '\r' ∉ spelled lexemes := by
  intro member
  obtain ⟨l, listed, inside⟩ := List.mem_flatMap.mp member
  exact Lexeme.carriage_notMem (legal l listed) inside

def tokensOf (lexemes : List Lexeme) : List Token :=
  lexemes.filterMap Lexeme.token?

@[simp] theorem tokensOf_nil : tokensOf [] = [] := rfl

@[simp] theorem tokensOf_cons (l : Lexeme) (lexemes : List Lexeme) :
    tokensOf (l :: lexemes) = l.token?.toList ++ tokensOf lexemes := by
  cases token : l.token? <;> simp [tokensOf, token]

@[simp] theorem tokensOf_append (lexemes others : List Lexeme) :
    tokensOf (lexemes ++ others) = tokensOf lexemes ++ tokensOf others :=
  List.filterMap_append

open Lexer in
theorem steps_lexemes {lexemes : List Lexeme} (legal : ∀ l ∈ lexemes, l.Legal)
    (apart : lexemes.IsChain fun l other => l.apart other = true) {brackets after : List Char}
    (through : lexemes.foldlM Lexeme.bracketsAfter brackets = some after)
    (margins : List Margin) (tokens : List Token) (rest : List Char) :
    Steps ⟨brackets, margins, false, tokens⟩ (spelled lexemes ++ '\n' :: rest)
      ⟨after, margins, false, (tokensOf lexemes).reverse ++ tokens⟩ ('\n' :: rest) := by
  induction lexemes generalizing brackets tokens with
  | nil =>
    obtain rfl := Option.some.inj through
    exact .refl
  | cons l others ih =>
    obtain ⟨here, later⟩ := List.forall_mem_cons.mp legal
    rw [List.foldlM_cons] at through
    obtain ⟨between, opens, through⟩ := Option.bind_eq_some_iff.mp through
    -- What stands behind a lexeme is the next one, or the break at the end of the line.
    have follows : ∃ c left, spelled others ++ '\n' :: rest = c :: left ∧ l.Allows c := by
      cases others with
      | nil => exact ⟨'\n', rest, rfl,
        l.allows_of_outside rfl (by decide) (by decide) (by decide) (by decide)⟩
      | cons other more =>
        obtain ⟨first, -⟩ := List.isChain_cons_cons.mp apart
        obtain ⟨c, left, chars, allows⟩ := Lexeme.exists_allowed first (later other List.mem_cons_self)
        exact ⟨c, left ++ (spelled more ++ '\n' :: rest), by simp [spelled, chars], allows⟩
    obtain ⟨c, left, goes, allows⟩ := follows
    have first : Steps ⟨brackets, margins, false, tokens⟩ (l.chars ++ c :: left)
        ⟨between, margins, false, l.token?.toList ++ tokens⟩ (c :: left) := l.steps here opens allows
    rw [← goes] at first
    have more := ih later apart.tail through (l.token?.toList ++ tokens)
    have read : (tokensOf (l :: others)).reverse = (tokensOf others).reverse ++ l.token?.toList := by
      cases token : l.token? <;> simp [token]
    rw [read, List.append_assoc]
    exact (by simpa [spelled] using first.trans more)

end GraphqlRequests.Source
