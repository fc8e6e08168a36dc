import GraphqlRequests.Proofs.Source.Layout
import GraphqlRequests.Source.Statement

/-!
# Tokens so far

The lexer only adds tokens, the last first, so that those so far stand at the end of those of a whole
text. Blocks start at margins only.
-/

namespace GraphqlRequests.Source

namespace Lexer

variable {n : Nat} {lexer next final : Lexer} {chars rest : List Char} {margins : List Margin}
variable {tokens : List Token} {c : Char}

/-! ### Margins -/

theorem suffix_indentTo {margin : Margin} (indented : lexer.indentTo margin = some next) :
    lexer.tokens <:+ next.tokens := by
  rw [indentTo] at indented
  split at indented
  · split at indented
    · obtain rfl := Option.some.inj indented
      exact List.suffix_refl _
    · cases indented
  split at indented
  · split at indented
    · cases indented
    · obtain rfl := Option.some.inj indented
      exact List.suffix_cons _ _
  · simp only at indented
    split at indented
    · obtain rfl := Option.some.inj indented
      exact List.suffix_append _ _
    · cases indented

theorem suffix_startLine (started : lexer.startLine chars = some (next, rest)) :
    lexer.tokens <:+ next.tokens := by
  rw [startLine] at started
  obtain ⟨⟨margin, after⟩, -, started⟩ := Option.bind_eq_some_iff.mp started
  simp only at started
  split at started
  · obtain rfl := (Prod.mk.inj (Option.some.inj started)).1
    exact List.suffix_refl _
  · obtain rfl := (Prod.mk.inj (Option.some.inj started)).1
    exact List.suffix_refl _
  · obtain ⟨indented, same, started⟩ := Option.bind_eq_some_iff.mp started
    obtain rfl := (Prod.mk.inj (Option.some.inj started)).1
    have kept := suffix_indentTo same
    exact kept

theorem tokens_of_bracket? (bracketed : lexer.bracket? c = some next) :
    next.tokens = .symbol (String.singleton c) :: lexer.tokens := by
  rw [bracket?] at bracketed
  split at bracketed
  · split at bracketed
    · split at bracketed
      · obtain rfl := Option.some.inj bracketed
        rfl
      · cases bracketed
    · cases bracketed
  · split at bracketed
    · cases bracketed
    · obtain rfl := Option.some.inj bracketed
      rfl

/-! ### Runs -/

/-- One call of `run` between two tokens: it stops, goes on without a token, or goes on after one
that starts no block, perhaps in a literal. -/
inductive Turn (n : Nat) (lexer : Lexer) (final : Lexer) : Prop
  | stop (same : final = lexer)
  | skip (next : Lexer) (rest : List Char) (tokens : next.tokens = lexer.tokens)
    (margin : next.atMargin = false) (ran : run n next rest = some final)
  | push (next : Lexer) (token : Token) (rest : List Char) (other : token ≠ .indent)
    (tokens : next.tokens = token :: lexer.tokens) (ran : run n next rest = some final)
  | literal (form : Literal.Form) (rest : List Char)
    (ran : literal n lexer form rest = some final)

theorem turn_of_run (inside : lexer.atMargin = false) (ran : run (n + 1) lexer chars = some final) :
    Turn n lexer final := by
  cases chars with
  | nil =>
    rw [run] at ran
    exact .stop (Option.some.inj ran).symm
  | cons c rest =>
    rw [run, if_neg (by simp [inside])] at ran
    -- The branches come in the order in which characters are looked for.
    split at ran
    · exact .skip lexer rest rfl inside ran
    split at ran
    · split at ran
      · exact .push _ .newline rest (by simp) rfl ran
      · exact .skip lexer rest rfl inside ran
    split at ran
    · exact .skip lexer _ rfl inside ran
    split at ran
    · split at ran
      · exact .skip lexer _ rfl inside ran
      · cases ran
    split at ran
    · exact .literal _ _ ran
    split at ran
    · obtain ⟨next, bracketed, ran⟩ := Option.bind_eq_some_iff.mp ran
      exact .push next _ rest (by simp) (tokens_of_bracket? bracketed) ran
    split at ran
    · obtain ⟨⟨imaginary, after⟩, -, ran⟩ := Option.bind_eq_some_iff.mp ran
      exact .push _ (.number imaginary) after (by simp) rfl ran
    split at ran
    · simp only at ran
      split at ran
      · exact .literal _ _ ran
      · exact .literal _ _ ran
      · split at ran
        · exact .push _ _ _ (by simp) rfl ran
        · cases ran
    · obtain ⟨⟨text, after⟩, -, ran⟩ := Option.bind_eq_some_iff.mp ran
      exact .push _ (.symbol text) after (by simp) rfl ran

/-- The three functions go through the text together. -/
theorem suffix_all (n : Nat) :
    (∀ lexer chars final, run n lexer chars = some final → lexer.tokens <:+ final.tokens) ∧
    (∀ lexer form chars final, literal n lexer form chars = some final → ∃ isBytes,
      .text isBytes :: lexer.tokens <:+ final.tokens) ∧
    ∀ lexer pieces final, embed n lexer pieces = some final →
      lexer.tokens <:+ final.tokens := by
  -- Each of the functions calls another with less fuel, so that one induction is for all three.
  induction n with
  | zero => simp [run, literal, embed]
  | succ n ih =>
    obtain ⟨runs, literals, embeds⟩ := ih
    refine ⟨fun lexer chars final ran => ?run, fun lexer form chars final ran => ?literal,
      fun lexer pieces final ran => ?embed⟩
    case run =>
      cases inside : lexer.atMargin with
      | false =>
        cases turn_of_run inside ran with
        | stop same => exact same ▸ List.suffix_refl _
        | skip next rest tokens margin ran => exact tokens ▸ runs _ _ _ ran
        | push next token rest other tokens ran =>
          exact (List.suffix_cons token _).trans (tokens ▸ runs _ _ _ ran)
        | literal form rest ran =>
          obtain ⟨isBytes, suffix⟩ := literals _ _ _ _ ran
          exact (List.suffix_cons _ _).trans suffix
      | true =>
        cases chars with
        | nil =>
          rw [run] at ran
          exact Option.some.inj ran ▸ List.suffix_refl _
        | cons c rest =>
          rw [run, if_pos inside] at ran
          split at ran
          · next next after started => exact (suffix_startLine started).trans (runs _ _ _ ran)
          · cases ran
    case literal =>
      rw [literal] at ran
      obtain ⟨⟨body, rest⟩, -, ran⟩ := Option.bind_eq_some_iff.mp ran
      obtain ⟨pieces, -, ran⟩ := Option.bind_eq_some_iff.mp ran
      obtain ⟨next, embedded, ran⟩ := Option.bind_eq_some_iff.mp ran
      exact ⟨form.isBytes, (embeds _ _ _ embedded).trans (runs _ _ _ ran)⟩
    case embed =>
      cases pieces with
      | nil =>
        rw [embed] at ran
        exact Option.some.inj ran ▸ List.suffix_refl _
      | cons piece pieces =>
        rw [embed] at ran
        obtain ⟨inner, -, ran⟩ := Option.bind_eq_some_iff.mp ran
        split at ran
        · cases ran
        · have suffix := embeds _ _ _ ran
          exact ((List.suffix_cons _ _).trans (List.suffix_append _ _)).trans suffix

theorem suffix_run (ran : run n lexer chars = some final) : lexer.tokens <:+ final.tokens :=
  (suffix_all n).1 lexer chars final ran

def GoesOn (tokens : List Token) (final : Lexer) : Prop :=
  final.tokens = tokens ∨ ∃ token, token ≠ .indent ∧ token :: tokens <:+ final.tokens

theorem goesOn_run (inside : lexer.atMargin = false) (ran : run n lexer chars = some final) :
    GoesOn lexer.tokens final := by
  induction n generalizing lexer chars with
  | zero => simp [run] at ran
  | succ n ih =>
    cases turn_of_run inside ran with
    | stop same => exact .inl (same ▸ rfl)
    | skip next rest tokens margin ran => exact tokens ▸ ih margin ran
    | push next token rest other tokens ran => exact .inr ⟨token, other, tokens ▸ suffix_run ran⟩
    | literal form rest ran =>
      obtain ⟨isBytes, suffix⟩ := (suffix_all n).2.1 _ _ _ _ ran
      exact .inr ⟨_, by simp, suffix⟩

end Lexer

end GraphqlRequests.Source
