import GraphqlRequests.Proofs.Source.Lexing
import GraphqlRequests.Text.Quoted
import Mathlib.Tactic.Ring

/-!
# Quoted texts are literals

Each character of a quoted text stands for itself or is escaped, so that the literal ends with its
closing quote, and the escapes can be read.
-/

namespace GraphqlRequests.Source

open Text
open Literal (bodyTo escapesHold)

/-! ### Hexadecimal digits -/

theorem hexDigit_plain {n : Nat} (small : n < 16) :
    Number.isHexDigit (hexDigit n) = true ∧ hexDigit n ∉ ['\\', '\n', '"', '\''] ∧
      (if (hexDigit n).isDigit then (hexDigit n).toNat - 48 else (hexDigit n).toLower.toNat - 87)
        = n := by
  have all : ∀ n : Fin 16, Number.isHexDigit (hexDigit n) = true ∧
      hexDigit n ∉ ['\\', '\n', '"', '\''] ∧
      (if (hexDigit n).isDigit then (hexDigit n).toNat - 48 else (hexDigit n).toLower.toNat - 87)
        = (n : Nat) := by decide
  exact all ⟨n, small⟩

theorem mem_hexDigits {c : Char} {width n : Nat} (member : c ∈ hexDigits width n) :
    ∃ k < 16, c = hexDigit k := by
  obtain ⟨i, -, rfl⟩ := List.mem_map.mp member
  exact ⟨_, Nat.mod_lt _ (by decide), rfl⟩

theorem hexDigits_succ (width n : Nat) :
    hexDigits (width + 1) n = hexDigit (n / 16 ^ width % 16) :: hexDigits width n := by
  rw [hexDigits, List.range_succ, List.reverse_append, List.map_append]
  rfl

theorem foldl_hexDigits (value width n : Nat) :
    (hexDigits width n).foldl (fun n c =>
        16 * n + (if c.isDigit then c.toNat - 48 else c.toLower.toNat - 87)) value
      = value * 16 ^ width + n % 16 ^ width := by
  induction width generalizing value with
  | zero => simp [hexDigits, Nat.mod_one]
  | succ width ih =>
    have digit := (hexDigit_plain (Nat.mod_lt (n / 16 ^ width) (by decide : 0 < 16))).2.2
    rw [hexDigits_succ, List.foldl_cons, digit, ih, Nat.mod_pow_succ, Nat.pow_succ, Nat.add_mul]
    ring

theorem hexValue_hexDigits {n : Nat} (small : n < 16 ^ 8) :
    Literal.hexValue (hexDigits 8 n) = n := by
  rw [Literal.hexValue, foldl_hexDigits, Nat.zero_mul, Nat.zero_add, Nat.mod_eq_of_lt small]

theorem hasDigits_hexDigits (width n : Nat) (tail : List Char) :
    Literal.hasDigits width (hexDigits width n ++ tail) = true := by
  have length : (hexDigits width n).length = width := by simp [hexDigits]
  have taken : (hexDigits width n ++ tail).take width = hexDigits width n := by
    rw [List.take_append_of_le_length length.ge, List.take_of_length_le length.le]
  rw [Literal.hasDigits, taken, decide_eq_true length, Bool.true_and, List.all_eq_true]
  intro c member
  obtain ⟨k, small, rfl⟩ := mem_hexDigits member
  exact (hexDigit_plain small).1

/-! ### Pieces of a body -/

variable {quote : Char} {piece others : List Char}

/-- Within a literal in one line the piece stands for some text, and ends no escape that is not its
own. -/
structure Inert (quote : Char) (piece : List Char) : Prop where
  inside : ∀ body rest, bodyTo quote false 0 body (piece ++ rest)
    = bodyTo quote false 0 (piece.reverse ++ body) rest
  escapes : ∀ rest, escapesHold false (piece ++ rest) = escapesHold false rest

theorem Inert.nil : Inert quote [] := ⟨fun _ _ => rfl, fun _ => rfl⟩

theorem Inert.append (first : Inert quote piece) (second : Inert quote others) :
    Inert quote (piece ++ others) where
  inside body rest := by
    rw [List.append_assoc, first.inside, second.inside, List.reverse_append, List.append_assoc]
  escapes rest := by rw [List.append_assoc, first.escapes, second.escapes]

theorem inert_plain {c : Char} (slash : c ≠ '\\') (lineBreak : c ≠ '\n') (other : c ≠ quote) :
    Inert quote [c] where
  inside body rest := by
    rw [List.singleton_append, bodyTo, if_neg other]
    · simp [lineBreak]
    · exact fun _ _ same _ => slash same
  escapes rest := by
    rw [List.singleton_append, escapesHold]
    exact fun _ _ same _ => slash same

theorem inert_hexDigits (opens : quote = '"' ∨ quote = '\'') (width n : Nat) :
    Inert quote (hexDigits width n) := by
  have digits : ∀ chars : List Char, (∀ c ∈ chars, ∃ k < 16, c = hexDigit k) →
      Inert quote chars := by
    intro chars each
    induction chars with
    | nil => exact .nil
    | cons c rest ih =>
      obtain ⟨⟨k, small, rfl⟩, later⟩ := List.forall_mem_cons.mp each
      have plain := (hexDigit_plain small).2.1
      simp only [List.mem_cons, List.not_mem_nil, or_false, not_or] at plain
      have other : hexDigit k ≠ quote := by rcases opens with rfl | rfl <;> simp [plain]
      exact (inert_plain plain.1 plain.2.1 other).append (ih later)
  exact digits _ fun c member => mem_hexDigits member

theorem inert_escape {c : Char} (known : c ∉ ['x', 'u', 'U', 'N']) : Inert quote ['\\', c] where
  inside body rest := rfl
  escapes rest := by
    simp only [List.mem_cons, List.not_mem_nil, or_false, not_or] at known
    simp [escapesHold, known]

theorem inert_numericEscape (opens : quote = '"' ∨ quote = '\'') {n : Nat} (small : n < 0x110000) :
    Inert quote (numericEscape n) := by
  have digits := inert_hexDigits opens
  rw [numericEscape]
  split
  · refine ⟨fun body rest => (digits 2 n).inside _ rest, fun rest => ?_⟩
    simp [escapesHold, hasDigits_hexDigits, (digits 2 n).escapes]
  split
  · refine ⟨fun body rest => (digits 4 n).inside _ rest, fun rest => ?_⟩
    simp [escapesHold, hasDigits_hexDigits, (digits 4 n).escapes]
  · refine ⟨fun body rest => (digits 8 n).inside _ rest, fun rest => ?_⟩
    have taken : (hexDigits 8 n ++ rest).take 8 = hexDigits 8 n := rfl
    have value := hexValue_hexDigits (n := n) (by omega)
    simp [escapesHold, hasDigits_hexDigits, (digits 8 n).escapes, taken, value]
    omega

theorem inert_quotedChar (opens : quote = '"' ∨ quote = '\'') (c : Char) :
    Inert quote (quotedChar quote c) := by
  unfold quotedChar
  split
  · next same =>
    subst same
    exact inert_escape (by rcases opens with rfl | rfl <;> decide)
  · next other =>
    split
    · exact inert_escape (c := '\\') (by decide)
    · exact inert_escape (c := 'n') (by decide)
    · exact inert_escape (c := 'r') (by decide)
    · exact inert_escape (c := 't') (by decide)
    · next slash lineBreak _ _ =>
      split
      · exact inert_plain slash lineBreak other
      · refine inert_numericEscape opens ?_
        rcases c.valid with low | high
        · exact low.trans (by decide)
        · exact high.2

theorem inert_quotedChars (opens : quote = '"' ∨ quote = '\'') (text : List Char) :
    Inert quote (text.flatMap (quotedChar quote)) := by
  induction text with
  | nil => exact .nil
  | cons c rest ih => exact (inert_quotedChar opens c).append ih

/-! ### Whole literals -/

theorem enclosingQuote_eq (text : List Char) :
    enclosingQuote text = '"' ∨ enclosingQuote text = '\'' := by
  rw [enclosingQuote]
  split
  · exact .inl rfl
  · exact .inr rfl

theorem body?_inert (opens : quote = '"' ∨ quote = '\'') (inert : Inert quote piece)
    (starts : piece.head? ≠ some quote) {c : Char} {rest : List Char} (other : c ≠ quote) :
    Literal.body? (quote :: (piece ++ [quote]) ++ c :: rest) = some (piece, c :: rest) := by
  have read : bodyTo quote false 0 [] (piece ++ quote :: c :: rest) = some (piece, c :: rest) := by
    rw [inert.inside]
    rcases opens with rfl | rfl <;> simp [bodyTo]
  cases piece with
  | nil => simp [Literal.body?, other.symm]
  | cons first others =>
    have differs : quote ≠ first := fun same => starts (by simp [same])
    obtain ⟨next, tail, goes⟩ := List.exists_cons_of_ne_nil
      (by simp : others ++ quote :: c :: rest ≠ [])
    have shape : quote :: (first :: others ++ [quote]) ++ c :: rest
        = quote :: first :: next :: tail := by simp [← goes]
    rw [shape, Literal.body?, if_neg differs, ← goes]
    exact read

theorem head?_quotedChars (opens : quote = '"' ∨ quote = '\'') (text : List Char) :
    (text.flatMap (quotedChar quote)).head? ≠ some quote := by
  cases text with
  | nil => simp
  | cons c rest =>
    have first : ∃ d others, quotedChar quote c = d :: others ∧ d ≠ quote := by
      have slash : '\\' ≠ quote := by rcases opens with rfl | rfl <;> decide
      -- Whatever is escaped starts with a backslash.
      unfold quotedChar
      split
      · exact ⟨_, _, rfl, slash⟩
      · next other =>
        split
        iterate 4 exact ⟨_, _, rfl, slash⟩
        split
        · exact ⟨_, _, rfl, other⟩
        · unfold numericEscape
          split
          · exact ⟨_, _, rfl, slash⟩
          split <;> exact ⟨_, _, rfl, slash⟩
    obtain ⟨d, others, chars, differs⟩ := first
    rw [List.flatMap_cons, chars, List.cons_append, List.head?_cons]
    exact fun same => differs (Option.some.inj same)

theorem isLiteral_of_inert (opens : quote = '"' ∨ quote = '\'') (inert : Inert quote piece)
    (starts : piece.head? ≠ some quote) : IsLiteral (quote :: (piece ++ [quote])) := by
  refine ⟨piece, ?_, ?_, fun c rest double single => ?_⟩
  · rcases opens with rfl | rfl <;> rfl
  · have read := inert.escapes []
    rwa [List.append_nil, escapesHold] at read
  · refine body?_inert opens inert starts ?_
    rcases opens with rfl | rfl
    · exact double
    · exact single

theorem isLiteral_quotedChars (text : List Char) : IsLiteral (quotedChars text) :=
  isLiteral_of_inert (enclosingQuote_eq text) (inert_quotedChars (enclosingQuote_eq text) text)
    (head?_quotedChars (enclosingQuote_eq text) text)

theorem carriage_notMem_quotedChar {quote : Char} (opens : quote = '"' ∨ quote = '\'') (c : Char) :
    '\r' ∉ quotedChar quote c := by
  have slash : ∀ d, d ≠ '\r' → '\r' ∉ ['\\', d] := fun d other => by simp [other.symm]
  have digits : ∀ width n, '\r' ∉ hexDigits width n := by
    intro width n member
    obtain ⟨k, small, same⟩ := mem_hexDigits member
    have all : ∀ k : Fin 16, '\r' ≠ hexDigit k := by decide
    exact all ⟨k, small⟩ same
  unfold quotedChar
  split
  · refine slash c ?_
    rcases opens with rfl | rfl <;> simp_all
  split
  iterate 4 exact slash _ (by decide)
  split
  · next carriage _ _ => simpa using fun same => carriage same.symm
  · unfold numericEscape
    split
    · simp [digits]
    split <;> simp [digits]

theorem carriage_notMem_quotedChars (text : List Char) : '\r' ∉ quotedChars text := by
  have opens := enclosingQuote_eq text
  have other : '\r' ≠ enclosingQuote text := by rcases opens with same | same <;> simp [same]
  simp only [quotedChars, List.mem_cons, List.mem_append, List.mem_flatMap, other,
    List.not_mem_nil, or_false, false_or, not_exists, not_and]
  exact fun c _ => carriage_notMem_quotedChar opens c

theorem legal_quoted (text : String) : (Lexeme.literal (quoted text)).Legal := by
  rw [Lexeme.Legal, quoted, String.toList_ofList]
  exact ⟨isLiteral_quotedChars _, carriage_notMem_quotedChars _⟩

theorem legal_doubleQuoted {text : List Char} (plain : ∀ c ∈ text, c ∉ ['\\', '\n', '"', '\r']) :
    (Lexeme.literal (String.ofList ('"' :: (text ++ ['"'])))).Legal := by
  have inert : Inert '"' text := by
    induction text with
    | nil => exact .nil
    | cons c rest ih =>
      obtain ⟨here, later⟩ := List.forall_mem_cons.mp plain
      simp only [List.mem_cons, List.not_mem_nil, or_false, not_or] at here
      exact (inert_plain here.1 here.2.1 here.2.2.1).append (ih later)
  have other : ∀ c, c ∈ ['\\', '\n', '"', '\r'] → c ∉ text := fun c special member =>
    plain c member special
  rw [Lexeme.Legal, String.toList_ofList]
  refine ⟨isLiteral_of_inert (.inl rfl) inert fun first => ?_, ?_⟩
  · exact other _ (by decide) (List.mem_of_mem_head? first)
  · simp [other '\r' (by decide)]

end GraphqlRequests.Source
