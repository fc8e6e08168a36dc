import GraphqlRequests.Proofs.Source.Lexing
import GraphqlRequests.Proofs.Text.Split
import Mathlib.Data.List.Basic

/-!
# Lines and margins

At the margin of a line the lexer compares the blanks before it with the blocks that are open. Lines
that are empty or hold a comment have no tokens; all others have those of their lexemes, after marks
for the blocks that they open or close.
-/

namespace GraphqlRequests.Source

open Lexer (Steps)

def margin (width : Nat) : Margin := ⟨width, width⟩

/-- Where the blocks of these widths are open, the lines have the tokens, and those are open after
them. -/
def Lays (opened : List Nat) (chars : List Char) (tokens : List Token) (left : List Nat) : Prop :=
  ∀ read rest, Steps ⟨[], opened.map margin, true, read⟩ (chars ++ rest)
    ⟨[], left.map margin, true, tokens.reverse ++ read⟩ rest

variable {opened between left : List Nat} {chars others : List Char} {tokens more : List Token}
variable {width : Nat} {lines : List String}

theorem Lays.nil : Lays opened [] [] opened :=
  fun _ _ => .refl

theorem Lays.append (first : Lays opened chars tokens between)
    (second : Lays between others more left) :
    Lays opened (chars ++ others) (tokens ++ more) left := by
  intro read rest
  rw [List.append_assoc, List.reverse_append, List.append_assoc]
  exact (first read (others ++ rest)).trans (second _ rest)

/-! ### Lines without tokens -/

theorem measure_blanks {c : Char} {rest : List Char} (other : c ∉ [' ', '\t', '\x0c', '\\'])
    (start : Nat) : Lexer.measure (margin start) 0 (List.replicate width ' ' ++ c :: rest)
      = some (margin (start + width), c :: rest) := by
  induction width generalizing start with
  | zero =>
    simp only [List.mem_cons, List.not_mem_nil, or_false, not_or] at other
    rw [List.replicate_zero, List.nil_append]
    unfold Lexer.measure
    split
    all_goals simp_all
  | succ width ih =>
    rw [List.replicate_succ, List.cons_append, Lexer.measure]
    have next := ih (start + 1)
    rw [Nat.add_right_comm, Nat.add_assoc] at next
    exact next

theorem run_margin {lexer next : Lexer} {rest : List Char} (margin : lexer.atMargin = true)
    (nonempty : chars ≠ []) (started : lexer.startLine chars = some (next, rest)) (n : Nat) :
    Lexer.run (n + 1) lexer chars = Lexer.run n next rest := by
  obtain ⟨c, others, rfl⟩ := List.exists_cons_of_ne_nil nonempty
  rw [Lexer.run, if_pos margin, started]

theorem lays_empty : Lays opened ['\n'] [] opened := by
  intro read rest
  have blank : Lexer.measure {} 0 (List.replicate 0 ' ' ++ '\n' :: rest)
      = some (margin 0, '\n' :: rest) := measure_blanks (by decide) 0
  rw [List.replicate_zero, List.nil_append] at blank
  refine .of_run (by simp) fun n => run_margin rfl (by simp) ?_ n
  simp [Lexer.startLine, blank]

theorem lays_comment {text : List Char} (oneLine : '\n' ∉ text) :
    Lays opened (List.replicate width ' ' ++ '#' :: text ++ ['\n']) [] opened := by
  intro read rest
  have shape : List.replicate width ' ' ++ '#' :: text ++ ['\n'] ++ rest
      = List.replicate width ' ' ++ '#' :: (text ++ '\n' :: rest) := by simp
  have start : Lexer.measure {} 0 (List.replicate width ' ' ++ '#' :: (text ++ '\n' :: rest))
      = some (margin (0 + width), '#' :: (text ++ '\n' :: rest)) := measure_blanks (by decide) 0
  have skipped : (text ++ '\n' :: rest).dropWhile (· ≠ '\n') = '\n' :: rest := by
    rw [List.dropWhile_append_of_pos, List.dropWhile_cons_of_neg (by simp)]
    intro c member
    simpa using fun same : c = '\n' => oneLine (same ▸ member)
  rw [shape]
  refine .of_run (by simp; omega) fun n => run_margin rfl (by simp) ?_ n
  simp only [Lexer.startLine, start, Option.bind_eq_bind, Option.bind_some, skipped]
  rfl

/-! ### Lines of lexemes -/

/-- With a line at the margin `width`, the open blocks change, with these marks. -/
def Indents (opened : List Nat) (width : Nat) (marks : List Token) (left : List Nat) : Prop :=
  ∀ read, Lexer.indentTo ⟨[], opened.map margin, true, read⟩ (margin width)
    = some ⟨[], left.map margin, true, marks.reverse ++ read⟩

def Lexeme.starts : Lexeme → Bool
  | .blank | .turn => false
  | _ => true

theorem Lexeme.exists_start {l : Lexeme} (legal : l.Legal) (starts : l.starts = true) :
    ∃ c rest, l.chars = c :: rest ∧ c ∉ [' ', '\t', '\x0c', '\\', '#', '\n'] := by
  cases l with
  | word text =>
    obtain ⟨c, rest, chars, starts, -⟩ := forall_inWord_of_isWordText legal
    have differs : ∀ other, inWord other = false → c ≠ other :=
      fun _ => ne_of_inWord (inWord_of_startsName starts)
    refine ⟨c, rest, chars, ?_⟩
    simp only [List.mem_cons, List.not_mem_nil, or_false, not_or]
    exact ⟨differs _ rfl, differs _ rfl, differs _ rfl, differs _ rfl, differs _ rfl, differs _ rfl⟩
  | symbol text =>
    simp only [Legal, Lexer.spelledSymbols, List.mem_cons, List.not_mem_nil, or_false] at legal
    rcases legal with rfl | rfl | rfl | rfl | rfl | rfl <;> exact ⟨_, _, rfl, by decide⟩
  | bracket b =>
    simp [Legal, Lexer.isBracket] at legal
    rcases legal with rfl | rfl | rfl | rfl | rfl | rfl <;> exact ⟨_, _, rfl, by decide⟩
  | literal text =>
    obtain ⟨c, rest, chars, quote⟩ := legal.1.exists_quote
    rcases quote with rfl | rfl <;> exact ⟨_, _, chars, by decide⟩
  | blank | turn => cases starts

theorem startLine_eq {c : Char} {rest : List Char} {marks read : List Token}
    (indents : Indents opened width marks left) (other : c ∉ [' ', '\t', '\x0c', '\\', '#', '\n']) :
    Lexer.startLine ⟨[], opened.map margin, true, read⟩ (List.replicate width ' ' ++ c :: rest)
      = some (⟨[], left.map margin, false, marks.reverse ++ read⟩, c :: rest) := by
  simp only [List.mem_cons, List.not_mem_nil, or_false, not_or] at other
  have measured : Lexer.measure {} 0 (List.replicate width ' ' ++ c :: rest)
      = some (margin (0 + width), c :: rest) := measure_blanks (by simp [other]) 0
  rw [Lexer.startLine, measured, Nat.zero_add]
  simp only [Option.bind_eq_bind, Option.bind_some]
  split
  · next same => exact absurd (List.cons.inj same).1 other.2.2.2.2.1
  · next same => exact absurd (List.cons.inj same).1 other.2.2.2.2.2
  · rw [indents read]
    rfl

theorem lays_line {first : Lexeme} {lexemes : List Lexeme} (starts : first.starts = true)
    {marks : List Token} (indents : Indents opened width marks left)
    (legal : ∀ l ∈ first :: lexemes, l.Legal)
    (apart : (first :: lexemes).IsChain fun l other => l.apart other = true)
    (through : (first :: lexemes).foldlM Lexeme.bracketsAfter [] = some []) :
    Lays opened (List.replicate width ' ' ++ spelled (first :: lexemes) ++ ['\n'])
      (marks ++ tokensOf (first :: lexemes) ++ [.newline]) left := by
  intro read rest
  obtain ⟨c, others, chars, special⟩ := Lexeme.exists_start (legal first List.mem_cons_self) starts
  obtain ⟨tail, text⟩ : ∃ tail, spelled (first :: lexemes) ++ '\n' :: rest = c :: tail := by
    simp [spelled, chars]
  have shape : List.replicate width ' ' ++ spelled (first :: lexemes) ++ ['\n'] ++ rest
      = List.replicate width ' ' ++ c :: tail := by simp [← text]
  obtain ⟨fuel, less, line⟩ := steps_lexemes legal apart through (left.map margin)
    (marks.reverse ++ read) rest
  -- One call for the margin, those for the lexemes, and one for the end of the line.
  refine ⟨fuel + 2, by simp at less ⊢; omega, fun n => ?_⟩
  have whole : n + (fuel + 2) = n + 1 + fuel + 1 := by omega
  rw [shape, whole, run_margin rfl (by simp) (startLine_eq indents special), ← text, line (n + 1), Lexer.run]
  simp [Lexer.push]

/-! ### Texts of lines -/

def charsOf (lines : List String) : List Char :=
  lines.flatMap fun line => Text.normalizeBreaks (line.toList ++ ['\n'])

theorem charsOf_append (lines others : List String) :
    charsOf (lines ++ others) = charsOf lines ++ charsOf others :=
  List.flatMap_append

theorem charsOf_eq (plain : ∀ line ∈ lines, '\r' ∉ line.toList) :
    charsOf lines = lines.flatMap fun line => line.toList ++ ['\n'] := by
  rw [charsOf, List.flatMap_congr]
  exact fun line member => Text.normalizeBreaks_eq_self (by simpa using plain line member)

theorem normalizeBreaks_join (lines : List String) :
    Text.normalizeBreaks (String.join (lines.map (· ++ "\n"))).toList = charsOf lines := by
  induction lines with
  | nil => rfl
  | cons line rest ih =>
    have whole : (String.join ((line :: rest).map (· ++ "\n"))).toList
        = (line.toList ++ ['\n']) ++ (String.join (rest.map (· ++ "\n"))).toList := by
      simp
    rw [whole, Text.normalizeBreaks_append (.inl (by simp)), ih]
    rfl

theorem getLast?_charsOf (nonempty : lines ≠ []) : (charsOf lines).getLast? = some '\n' := by
  obtain ⟨before, line, rfl⟩ := lines.eq_nil_or_concat'.resolve_left nonempty
  rw [charsOf_append, List.getLast?_append, charsOf, List.flatMap_singleton,
    Text.getLast?_normalizeBreaks (by simp)]
  rfl

/-- Lines that begin with no open block have their tokens, and the blocks that they leave open are
closed after them. -/
theorem tokens?_of_lays (nonempty : lines ≠ []) (lays : Lays [] (charsOf lines) tokens left) :
    tokens? (String.join (lines.map (· ++ "\n"))) = some (tokens ++ left.map fun _ => .dedent) := by
  obtain ⟨fuel, less, runs⟩ := lays [] []
  rw [List.append_nil] at less runs
  have enough : 4 * (charsOf lines).length + 16
      = 4 * (charsOf lines).length + 15 - fuel + 1 + fuel := by
    simp only [List.length_nil] at less
    omega
  rw [tokens?, normalizeBreaks_join, endLastLine, if_pos (getLast?_charsOf nonempty)]
  have done : Lexer.run (4 * (charsOf lines).length + 16) {} (charsOf lines)
      = some ⟨[], left.map margin, true, tokens.reverse ++ []⟩ := by
    rw [enough]
    exact runs _
  simp [done]

end GraphqlRequests.Source
