import GraphqlRequests.Proofs.Source.Layout
import GraphqlRequests.Proofs.Source.Phrase

/-!
# Lines in blocks

The end of a block shows at the next line that is further out. So the tokens of a list of lines are
told apart from the ends of the blocks that are open before them, and are counted with the ends of
those that they leave open.
-/

namespace GraphqlRequests.Source

variable {outer inner opened left : List Nat} {width : Nat} {lines more : List String}
variable {tokens others : List Token} {lexemes : List Lexeme}

/-! ### Margins -/

/-- The margin of the innermost of the open blocks. -/
def base (outer : List Nat) : Nat :=
  outer.head?.getD 0

def dedents (widths : List Nat) : List Token :=
  widths.map fun _ => .dedent

theorem dedents_reverse : (dedents inner).reverse = dedents inner := by
  rw [dedents, List.map_const', List.reverse_replicate]

theorem head?_map_margin (outer : List Nat) :
    (outer.map margin).head?.getD {} = margin (base outer) := by
  cases outer <;> rfl

theorem indents_base (deeper : ∀ w ∈ inner, base outer < w) :
    Indents (inner ++ outer) (base outer) (dedents inner) outer := by
  intro read
  let closes : Margin → Bool := fun m => decide ((margin (base outer)).width < m.width)
  cases inner with
  | nil =>
    rw [List.nil_append, Lexer.indentTo]
    simp only [head?_map_margin, if_true]
    rfl
  | cons w inner =>
    have higher := deeper w List.mem_cons_self
    -- Exactly the inner blocks are closed: they are deeper than the margin, and no outer one is.
    have all : ∀ m ∈ (w :: inner).map margin, closes m = true := by
      intro m member
      obtain ⟨v, listed, rfl⟩ := List.mem_map.mp member
      exact decide_eq_true (deeper v listed)
    have none : (outer.map margin).takeWhile closes = [] ∧
        (outer.map margin).dropWhile closes = outer.map margin := by
      cases outer with
      | nil => exact ⟨rfl, rfl⟩
      | cons v outer =>
        have outside : ¬closes (margin v) = true := by simp [closes, base, margin]
        exact ⟨List.takeWhile_cons_of_neg outside, List.dropWhile_cons_of_neg outside⟩
    have taken : ((w :: inner ++ outer).map margin).takeWhile closes = (w :: inner).map margin := by
      rw [List.map_append, List.takeWhile_append_of_pos all, none.1, List.append_nil]
    have dropped : ((w :: inner ++ outer).map margin).dropWhile closes = outer.map margin := by
      rw [List.map_append, List.dropWhile_append_of_pos all, none.2]
    have unequal : ¬(margin (base outer)).width = (margin w).width := Nat.ne_of_lt higher
    have lower : ¬(margin w).width < (margin (base outer)).width := Nat.not_lt.mpr higher.le
    have top : ((w :: inner ++ outer).map margin).head?.getD {} = margin w := rfl
    have marks : ((w :: inner).map margin).map (fun _ => Token.dedent) = dedents (w :: inner) := by
      rw [List.map_map]
      rfl
    rw [Lexer.indentTo]
    simp only [top, if_neg unequal, if_neg lower]
    rw [taken, dropped, head?_map_margin, if_pos rfl, marks, dedents_reverse]

theorem indents_deeper (deeper : base outer < width) (few : outer.length + 1 < Lexer.mostBlocks) :
    Indents outer width [.indent] (width :: outer) := by
  intro read
  have unequal : ¬(margin width).width = (margin (base outer)).width := (Nat.ne_of_lt deeper).symm
  have higher : (margin (base outer)).width < (margin width).width := deeper
  have counted : ¬((margin width).count ≤ (margin (base outer)).count) := Nat.not_le.mpr deeper
  have shallow : ¬(Lexer.mostBlocks ≤ outer.length + 1) := Nat.not_le.mpr few
  rw [Lexer.indentTo]
  simp only [head?_map_margin, if_neg unequal, if_pos higher, List.length_map, decide_eq_false counted,
    decide_eq_false shallow]
  rfl

/-! ### Logical lines -/

/-- The lines are one logical line, with its lexemes after the blanks at its margin. -/
structure Logical (width : Nat) (lines : List String) (lexemes : List Lexeme) : Prop where
  chars : charsOf lines = List.replicate width ' ' ++ spelled lexemes ++ ['\n']
  starts : lexemes.head?.any Lexeme.starts = true
  legal : ∀ l ∈ lexemes, l.Legal
  apart : lexemes.IsChain fun l other => l.apart other = true
  closed : lexemes.foldlM Lexeme.bracketsAfter [] = some []

theorem Logical.lays {marks : List Token} (line : Logical width lines lexemes)
    (indents : Indents opened width marks left) :
    Lays opened (charsOf lines) (marks ++ (tokensOf lexemes ++ [.newline])) left := by
  obtain ⟨chars, starts, legal, apart, closed⟩ := line
  cases lexemes with
  | nil => cases starts
  | cons first lexemes =>
    rw [chars, ← List.append_assoc]
    exact lays_line starts indents legal apart closed

/-- The lines have no tokens. -/
def Silent (lines : List String) : Prop :=
  ∀ opened, Lays opened (charsOf lines) [] opened

theorem Silent.append (first : Silent lines) (second : Silent more) : Silent (lines ++ more) := by
  intro opened
  rw [charsOf_append]
  exact (first opened).append (second opened)

/-! ### Lines at one margin -/

/-- In the block `outer` the lines have the tokens, whatever is open further in before them. -/
def Sheds (outer : List Nat) (lines : List String) (tokens : List Token) : Prop :=
  ∀ inner, (∀ w ∈ inner, base outer < w) → ∃ read left, (∀ w ∈ left, base outer < w) ∧
    Lays (inner ++ outer) (charsOf lines) read (left ++ outer) ∧
    read ++ dedents left = dedents inner ++ tokens

theorem Silent.sheds (silent : Silent lines) : Sheds outer lines [] :=
  fun inner deeper => ⟨[], inner, deeper, silent _, by simp⟩

theorem Logical.sheds (line : Logical width lines lexemes) (level : base outer = width) :
    Sheds outer lines (tokensOf lexemes ++ [.newline]) := by
  subst level
  intro inner deeper
  exact ⟨dedents inner ++ (tokensOf lexemes ++ [.newline]), [], by simp,
    line.lays (indents_base deeper), by simp [dedents]⟩

theorem Sheds.append (first : Sheds outer lines tokens) (second : Sheds outer more others) :
    Sheds outer (lines ++ more) (tokens ++ others) := by
  intro inner deeper
  obtain ⟨read, between, deep, lays, same⟩ := first inner deeper
  obtain ⟨later, left, deep, lays', same'⟩ := second between deep
  refine ⟨read ++ later, left, deep, ?_, ?_⟩
  · rw [charsOf_append]
    exact lays.append lays'
  · rw [List.append_assoc, same', ← List.append_assoc, same, List.append_assoc]

/-! ### Blocks -/

/-- Below a line of the block `outer` the lines start a block of their own, with the tokens. -/
def Opens (outer : List Nat) (width : Nat) (lines : List String) (tokens : List Token) : Prop :=
  ∃ read left, (∀ w ∈ left, width < w) ∧
    Lays outer (charsOf lines) (.indent :: read) (left ++ width :: outer) ∧
    read ++ dedents left = tokens

theorem Logical.opens (line : Logical width lines lexemes) (deeper : base outer < width)
    (few : outer.length + 1 < Lexer.mostBlocks) :
    Opens outer width lines (tokensOf lexemes ++ [.newline]) := by
  refine ⟨tokensOf lexemes ++ [.newline], [], by simp, ?_, by simp [dedents]⟩
  exact line.lays (indents_deeper deeper few)

theorem Opens.append (first : Opens outer width lines tokens)
    (second : Sheds (width :: outer) more others) :
    Opens outer width (lines ++ more) (tokens ++ others) := by
  obtain ⟨read, between, deep, lays, same⟩ := first
  obtain ⟨later, left, deep, lays', same'⟩ := second between deep
  refine ⟨read ++ later, left, deep, ?_, ?_⟩
  · rw [charsOf_append]
    exact lays.append lays'
  · rw [List.append_assoc, same', ← List.append_assoc, same]

theorem Silent.opens (silent : Silent lines) (opens : Opens outer width more tokens) :
    Opens outer width (lines ++ more) tokens := by
  obtain ⟨read, left, deep, lays, same⟩ := opens
  refine ⟨read, left, deep, ?_, same⟩
  rw [charsOf_append]
  exact (silent outer).append lays

theorem Logical.sheds_block {further : Nat} (line : Logical width lines lexemes)
    (level : base outer = width) (deeper : width < further)
    (block : Opens outer further more tokens) :
    Sheds outer (lines ++ more) (tokensOf lexemes ++ .newline :: .indent :: (tokens ++ [.dedent])) := by
  subst level
  intro inner inside
  obtain ⟨read, left, deep, lays, rfl⟩ := block
  refine ⟨dedents inner ++ (tokensOf lexemes ++ [.newline]) ++ .indent :: read, left ++ [further],
    ?_, ?_, ?_⟩
  · intro w member
    rcases List.mem_append.mp member with within | last
    · exact deeper.trans (deep w within)
    · rw [List.mem_singleton.mp last]
      exact deeper
  · rw [charsOf_append, List.append_assoc left]
    exact (line.lays (indents_base inside)).append lays
  · simp [dedents]

theorem tokens?_of_sheds (nonempty : lines ≠ []) (sheds : Sheds [] lines tokens) :
    tokens? (String.join (lines.map (· ++ "\n"))) = some tokens := by
  obtain ⟨read, left, -, lays, same⟩ := sheds [] (by simp)
  rw [List.append_nil, List.append_nil] at lays
  rw [tokens?_of_lays nonempty lays]
  exact congrArg some same

end GraphqlRequests.Source
