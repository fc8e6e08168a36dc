import GraphqlRequests.Plan
import GraphqlRequests.Proofs.Executable.Reading

/-!
# The tokens of written operations

Names, references and literals go on until some character ends them. Put together with what stands
between them, they have the tokens of an operation.
-/

namespace GraphqlRequests.Document

open Sdl (Token Lexer Literal)

/-! ### Open ends -/

variable {first second : List Char} {tokens others : List Token}

theorem Lexes.closes (lexes : Lexes first tokens) : Closes first tokens := by
  intro before stop _
  rw [List.foldlM_append, lexes before, Option.bind_eq_bind, Option.bind_some, List.foldlM_cons]
  exact bind_pure _

theorem Lexes.append_closes (lexes : Lexes first tokens) (closes : Closes second others) :
    Closes (first ++ second) (tokens ++ others) := by
  intro before stop stops
  rw [List.append_assoc, List.foldlM_append, lexes before, Option.bind_eq_bind, Option.bind_some,
    closes _ stop stops, List.reverse_append, List.append_assoc]

theorem Closes.append_lexes {stop : Char} (closes : Closes first tokens) (stops : Stops stop)
    (lexes : Lexes (stop :: second) others) :
    Lexes (first ++ stop :: second) (tokens ++ others) := by
  intro before
  have start := lexes (tokens.reverse ++ before)
  rw [List.foldlM_cons] at start
  rw [List.append_cons, List.foldlM_append, closes before stop stops, List.reverse_append,
    List.append_assoc]
  exact start

/-! ### Literals -/

def after (before : List Token) (lexer : Lexer) : Lexer :=
  ⟨lexer.mode, lexer.tokens ++ before⟩

theorem idleStep_append (before read : List Token) (c : Char) :
    Lexer.idleStep (read ++ before) c = (Lexer.idleStep read c).map (after before) := by
  simp only [Lexer.idleStep]
  repeat' split
  all_goals rfl

theorem codeDone_append (before read : List Token) (chars : List Char) (n : Nat) :
    Lexer.codeDone (read ++ before) chars n = (Lexer.codeDone read chars n).map (after before) := by
  simp only [Lexer.codeDone]
  repeat' split
  all_goals rfl

theorem step_after (before : List Token) (lexer : Lexer) (c : Char) :
    Lexer.step (after before lexer) c = (Lexer.step lexer c).map (after before) := by
  obtain ⟨mode, read⟩ := lexer
  have token := fun t => idleStep_append before (t :: read) c
  cases mode with
  | idle => exact idleStep_append before read c
  | _ =>
    simp only [Lexer.step, after, ← List.cons_append, token, codeDone_append]
    repeat' split
    all_goals try rfl
    -- The other steps first read a number, an escape or a digit, whatever came before.
    all_goals
      simp only [Option.bind_eq_bind, Option.map_bind]
      refine Option.bind_congr fun value _ => ?_
      simp only [Function.comp_apply]
      repeat' split
    all_goals rfl

theorem foldlM_after (before : List Token) (chars : List Char) (lexer : Lexer) :
    chars.foldlM Lexer.step (after before lexer)
      = (chars.foldlM Lexer.step lexer).map (after before) := by
  induction chars generalizing lexer with
  | nil => rfl
  | cons c rest ih =>
    rw [List.foldlM_cons, List.foldlM_cons, step_after]
    cases lexer.step c with
    | none => rfl
    | some next => exact ih next

/-- Where a text may end, but for a comment, a character may end its last token. -/
theorem step_of_finish {lexer : Lexer} (ends : lexer.finish = some tokens)
    (outside : lexer.mode ≠ .comment) {stop : Char} (stops : Stops stop) :
    lexer.step stop = Lexer.idleStep tokens.reverse stop := by
  obtain ⟨mode, read⟩ := lexer
  cases mode with
  | comment => exact absurd rfl outside
  | idle =>
    obtain rfl := Option.some.inj ends
    rw [List.reverse_reverse]
    rfl
  | name chars =>
    obtain rfl := Option.some.inj ends
    simp [Lexer.step, stops.not_continuesName]
  | number chars =>
    simp only [Lexer.finish, Option.bind_eq_bind] at ends
    obtain ⟨token, number, same⟩ := Option.bind_eq_some_iff.mp ends
    obtain rfl := Option.some.inj same
    simp [Lexer.step, stops.not_extendsNumber, number]
  | opening count =>
    by_cases two : count = 2
    · subst two
      obtain rfl := Option.some.inj ends
      simp [Lexer.step, stops.ne '"' (by decide)]
    · simp [Lexer.finish, two] at ends
  | _ => cases ends

theorem Closes.tokens? {text : String} (closes : Closes text.toList tokens) :
    Sdl.tokens? text = some tokens := by
  have ended : (text.toList ++ ['\n']).foldlM Lexer.step {} = some ⟨.idle, tokens.reverse ++ []⟩ :=
    closes [] '\n' (.inl rfl)
  rw [List.foldlM_append, Option.bind_eq_bind, Option.bind_eq_some_iff] at ended
  obtain ⟨lexer, read, last⟩ := ended
  rw [List.foldlM_cons, Option.bind_eq_bind, Option.bind_eq_some_iff] at last
  obtain ⟨idle, step, same⟩ := last
  obtain rfl := Option.some.inj same
  rw [Sdl.tokens?, read, Option.bind_eq_bind, Option.bind_some, finish_of_step step,
    List.append_nil, List.reverse_reverse]

/-- A text with its tokens, of which the last is not followed by a comment. -/
def Ends (text : String) (tokens : List Token) : Prop :=
  ∃ lexer, text.toList.foldlM Lexer.step {} = some lexer ∧ lexer.mode ≠ .comment ∧
    lexer.finish = some tokens

theorem Ends.closes {text : String} (ends : Ends text tokens) : Closes text.toList tokens := by
  obtain ⟨lexer, read, outside, finish⟩ := ends
  intro before stop stops
  have whole : text.toList.foldlM Lexer.step ⟨.idle, before⟩ = some (after before lexer) := by
    have shifted := foldlM_after before text.toList {}
    rw [read] at shifted
    exact shifted
  have last := step_of_finish finish outside stops
  rw [List.foldlM_append, whole, Option.bind_eq_bind, Option.bind_some, List.foldlM_cons,
    step_after, last, ← idleStep_append]
  exact bind_pure _

/-! ### References -/

variable {ν : Type} [Name ν]

theorem closes_written {type : TypeRef (NamedRef ν)}
    (named : Sdl.isName (Name.shown type.innermost.name).toList = true) :
    Closes type.written.toList (Sdl.refTokens (type.map fun ref => Name.shown ref.name)) := by
  induction type with
  | named ref => exact closes_name named
  | list item ih =>
    have opens : Lexes ['['] [.mark "["] := fun _ => rfl
    have ends : Lexes [']'] [.mark "]"] := fun _ => rfl
    have whole := (opens.append ((ih named).append_lexes (.inr rfl) ends)).closes
    simpa [TypeRef.written, TypeRef.map, Sdl.refTokens] using whole
  | nonNull inner ih =>
    have mark : Lexes ['!'] [.mark "!"] := fun _ => rfl
    have whole := ((ih named).append_lexes (.inr rfl) mark).closes
    simpa [TypeRef.written, TypeRef.map, Sdl.refTokens] using whole

/-! ### Lists in parentheses -/

section Lists

variable {α : Type} {items : List α} {text : α → String} {itemTokens : α → List Token}
variable (each : ∀ a ∈ items, Closes (text a).toList (itemTokens a))
include each

theorem closes_join (nonempty : items ≠ []) :
    Closes (Text.join ", " (items.map text)).toList (items.flatMap itemTokens) := by
  induction items with
  | nil => exact absurd rfl nonempty
  | cons a others ih =>
    obtain ⟨here, later⟩ := List.forall_mem_cons.mp each
    by_cases last : others = []
    · subst last
      simpa [Text.join] using here
    · have blank : Lexes [',', ' '] [] := fun _ => rfl
      have whole := (here.append_lexes (.inl rfl) blank).append_closes (ih later last)
      rw [List.map_cons, Text.join_cons _ (mt List.map_eq_nil_iff.mp last)]
      simpa using whole

theorem closes_parenthesized (start : Closes first tokens) :
    Closes (first ++ (Plan.parenthesized (items.map text)).toList)
      (tokens ++ Sdl.Reader.bracketed "(" ")" itemTokens items) := by
  by_cases none : items = []
  · subst none
    simpa [Plan.parenthesized, Sdl.Reader.bracketed] using start
  · have opens : Lexes ['('] [.mark "("] := fun _ => rfl
    have ends : Lexes [')'] [.mark ")"] := fun _ => rfl
    have whole := (start.append_lexes (.inr rfl) opens).append
      ((closes_join each none).append_lexes (.inr rfl) ends)
    simpa [Plan.parenthesized, Sdl.Reader.bracketed, none] using whole.closes

end Lists

end GraphqlRequests.Document
