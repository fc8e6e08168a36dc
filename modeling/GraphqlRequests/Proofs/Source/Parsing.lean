import GraphqlRequests.Source.Statement

/-!
# Expressions that are recognised

The recogniser comes from the tokens of an expression to what follows them, whatever that is, with
fuel in proportion to their number. Around an atom with its trailers stand rules for operators,
which pass it on, where the next token ends the expression.
-/

namespace GraphqlRequests.Source

variable {tokens value rest ts : List Token} {shape : Shape} {n : Nat}

def startsAtom : Token → Bool
  | .name s => s ∉ Naming.keywords || s ∈ ["None", "True", "False"]
  | .text _ => true
  | .symbol s => s = "[" || s = "\x7b"
  | _ => false

def stops : List Token → Bool
  | .newline :: _ => true
  | .symbol s :: _ => s ∈ [")", "]", "\x7d", ",", "=", ":"]
  | _ => false

def follows : List Token → Bool
  | .text _ :: _ | .embedded :: _ => false
  | _ => true

/-- The tokens are an atom with trailers. -/
structure Heads (tokens : List Token) (shape : Shape) : Prop where
  starts : tokens.head?.any startsAtom = true
  unnamed : ∀ s ∈ ["=", ":="], tokens.tail.head? ≠ some (.symbol s)
  reads : ∃ steps ≤ tokens.length, ∀ n rest, follows rest = true → 8 * tokens.length ≤ n + steps →
    primary (n + steps) (tokens ++ rest) = trailers n shape rest

/-! ### Rules for operators -/

theorem exists_startsAtom (starts : ts.head?.any startsAtom = true) :
    ∃ t others, ts = t :: others ∧ startsAtom t = true := by
  cases ts with
  | nil => cases starts
  | cons t others => exact ⟨t, others, rfl, by simpa using starts⟩

/-- What begins with an atom begins with none of the words and marks that rules are told apart by. -/
theorem ne_cons_of_starts (starts : ts.head?.any startsAtom = true) {t : Token}
    (outside : startsAtom t = false) (more : List Token) : ts ≠ t :: more := by
  rintro rfl
  exact Bool.false_ne_true (outside.symm.trans starts)

theorem factor_of_primary (starts : ts.head?.any startsAtom = true) :
    factor (n + 1) ts = primary n ts := by
  rw [factor] <;> exact ne_cons_of_starts starts (by decide)

theorem cases_of_stops (stop : stops rest = true) :
    ∃ others, rest = .newline :: others ∨ rest = .symbol ")" :: others ∨
      rest = .symbol "]" :: others ∨ rest = .symbol "\x7d" :: others ∨
      rest = .symbol "," :: others ∨ rest = .symbol "=" :: others ∨ rest = .symbol ":" :: others := by
  unfold stops at stop
  split at stop
  · exact ⟨_, .inl rfl⟩
  · next s others => exact ⟨others, .inr (by simpa using stop)⟩
  · cases stop

theorem arithmeticOperator_stops (stop : stops rest = true) : arithmeticOperator rest = none := by
  obtain ⟨others, rfl | rfl | rfl | rfl | rfl | rfl | rfl⟩ := cases_of_stops stop <;> rfl

theorem comparisonOperator_stops (stop : stops rest = true) : comparisonOperator rest = none := by
  obtain ⟨others, rfl | rfl | rfl | rfl | rfl | rfl | rfl⟩ := cases_of_stops stop <;> rfl

theorem expression_of_primary (starts : ts.head?.any startsAtom = true) (stop : stops rest = true)
    (read : primary n ts = some (shape, rest)) : expression (n + 6) ts = some (shape, rest) := by
  have sum : sum (n + 2) ts = some (shape, rest) := by
    simp only [Source.sum, factor_of_primary starts, read, arithmeticOperator_stops stop,
      Option.bind_eq_bind, Option.bind_some]
  have comparison : comparison (n + 3) ts = some (shape, rest) := by
    simp only [Source.comparison, sum, comparisonOperator_stops stop, Option.bind_eq_bind,
      Option.bind_some]
  have inversion : inversion (n + 4) ts = some (shape, rest) := by
    rw [Source.inversion, comparison]
    exact ne_cons_of_starts starts (by decide)
  -- From here on the rules look for a word behind what they have read, and nothing that stops is one.
  have disjunction : disjunction (n + 5) ts = some (shape, rest) := by
    rw [Source.disjunction, inversion]
    simp only [Option.bind_eq_bind, Option.bind_some]
    split
    · cases stop
    · cases stop
    · rfl
  rw [expression, disjunction]
  · simp only [Option.bind_eq_bind, Option.bind_some]
    split
    · cases stop
    · rfl
  · exact ne_cons_of_starts starts (by decide)

theorem follows_of_stops (stop : stops rest = true) : follows rest = true := by
  obtain ⟨others, rfl | rfl | rfl | rfl | rfl | rfl | rfl⟩ := cases_of_stops stop <;> rfl

theorem trailers_stops (stop : stops rest = true) :
    trailers (n + 1) shape rest = some (shape, rest) := by
  obtain ⟨others, rfl | rfl | rfl | rfl | rfl | rfl | rfl⟩ := cases_of_stops stop <;>
    simp [trailers]

namespace Heads

variable (heads : Heads tokens shape)
include heads

theorem length_pos : 0 < tokens.length := by
  obtain ⟨t, others, rfl, -⟩ := exists_startsAtom heads.starts
  exact Nat.succ_pos _

theorem starts_append : (tokens ++ rest).head?.any startsAtom = true := by
  obtain ⟨t, others, rfl, starts⟩ := exists_startsAtom heads.starts
  simpa using starts

theorem append_ne {t : Token} (outside : startsAtom t = false) (more : List Token) :
    tokens ++ rest ≠ t :: more :=
  ne_cons_of_starts heads.starts_append outside more

theorem not_naming {mark : String} (names : mark ∈ ["=", ":="])
    (next : rest.head? ≠ some (.symbol mark)) (s : String) (more : List Token) :
    tokens ++ rest ≠ .name s :: .symbol mark :: more := by
  have unnamed := heads.unnamed mark names
  obtain ⟨t, others, rfl, -⟩ := exists_startsAtom heads.starts
  intro same
  have second := (List.cons.inj same).2
  cases others with
  | nil =>
    have plain : rest = .symbol mark :: more := second
    exact next (by rw [plain]; rfl)
  | cons follower others => exact unnamed (by rw [(List.cons.inj second).1]; rfl)

theorem expression_eq (stop : stops rest = true) (enough : 8 * tokens.length + 7 ≤ n) :
    expression n (tokens ++ rest) = some (shape, rest) := by
  obtain ⟨steps, few, reads⟩ := heads.reads
  obtain ⟨m, rfl⟩ : ∃ m, n = m + 1 + steps + 6 := ⟨n - steps - 7, by omega⟩
  refine expression_of_primary heads.starts_append stop ?_
  rw [reads _ _ (follows_of_stops stop) (by omega), trailers_stops stop]

theorem named_eq (stop : stops rest = true) (enough : 8 * tokens.length + 8 ≤ n) :
    named n (tokens ++ rest) = some (shape, rest) := by
  obtain ⟨m, rfl⟩ : ∃ m, n = m + 1 := ⟨n - 1, by omega⟩
  have next : rest.head? ≠ some (.symbol ":=") := by
    intro same
    obtain ⟨others, rfl⟩ := List.head?_eq_some_iff.mp same
    simp [stops] at stop
  rw [named, heads.expression_eq stop (by omega)]
  exact heads.not_naming (by decide) next

theorem item_eq (stop : stops rest = true) (enough : 8 * tokens.length + 9 ≤ n) :
    item n (tokens ++ rest) = some (shape, rest) := by
  obtain ⟨m, rfl⟩ : ∃ m, n = m + 1 := ⟨n - 1, by omega⟩
  rw [item, heads.named_eq stop (by omega)]
  exact heads.append_ne (by decide)

theorem starExpression_eq (stop : stops rest = true) (enough : 8 * tokens.length + 8 ≤ n) :
    starExpression n (tokens ++ rest) = some (shape, rest) := by
  obtain ⟨m, rfl⟩ : ∃ m, n = m + 1 := ⟨n - 1, by omega⟩
  rw [starExpression, heads.expression_eq stop (by omega)]
  exact heads.append_ne (by decide)

theorem startsExpression_append : startsExpression (tokens ++ rest) = true := by
  obtain ⟨t, more, rfl, starts⟩ := exists_startsAtom heads.starts
  cases t with
  | name s =>
    simp only [startsAtom, Bool.or_eq_true, decide_eq_true_eq] at starts
    have allowed : ∀ s ∈ ["None", "True", "False"], s ∈ startingKeywords := by decide
    exact (Bool.or_eq_true _ _).mpr
      (starts.imp decide_eq_true fun value => decide_eq_true (allowed s value))
  | symbol s =>
    have bracket : s = "[" ∨ s = "\x7b" := by simpa [startsAtom] using starts
    rcases bracket with rfl | rfl <;> rfl
  | text => rfl
  | number | embedded | newline | indent | dedent => cases starts

theorem startsItem_append : startsItem (tokens ++ rest) = true := by
  rw [startsItem, heads.startsExpression_append]
  exact heads.append_ne (by decide)

end Heads

/-! ### Atoms -/

theorem heads_name {s : String} (legal : s ∉ Naming.keywords) : Heads [.name s] .name where
  starts := by simp [startsAtom, legal]
  unnamed := by simp
  reads := ⟨1, Nat.le_refl _, fun n rest _ enough => by
    obtain ⟨m, rfl⟩ : ∃ m, n = m + 1 := ⟨n - 1, by simp at enough; omega⟩
    simp [primary, atom, legal]⟩

theorem heads_value {s : String} (value : s ∈ ["None", "True", "False"]) :
    Heads [.name s] .other where
  starts := by simp [startsAtom, value]
  unnamed := by simp
  reads := ⟨1, Nat.le_refl _, fun n rest _ enough => by
    obtain ⟨m, rfl⟩ : ∃ m, n = m + 1 := ⟨n - 1, by simp at enough; omega⟩
    have keyword : s ∈ Naming.keywords := by
      simp only [List.mem_cons, List.not_mem_nil, or_false] at value
      rcases value with rfl | rfl | rfl <;> decide
    simp [primary, atom, keyword, value]⟩

theorem heads_text : Heads [.text false] .other where
  starts := rfl
  unnamed := by simp
  reads := ⟨1, Nat.le_refl _, fun n rest follow enough => by
    obtain ⟨m, rfl⟩ : ∃ m, n = m + 2 := ⟨n - 2, by simp at enough; omega⟩
    have ends : literals (m + 1) false rest = some rest := by
      unfold literals
      split
      · next impossible => cases impossible
      · cases follow
      · cases follow
      · rfl
    simp [primary, atom, ends]⟩

/-! ### Lists between brackets -/

def commaed (items : List (List Token)) : List Token :=
  items.flatMap (.symbol "," :: ·)

@[simp] theorem commaed_nil : commaed [] = [] := rfl

@[simp] theorem commaed_cons (item : List Token) (items : List (List Token)) :
    commaed (item :: items) = .symbol "," :: (item ++ commaed items) := rfl

variable {first : List Token} {items : List (List Token)} {place start : ArgumentPlace}

theorem stops_commaed {close : String} (closing : close ∈ [")", "]", "\x7d"]) :
    stops (commaed items ++ .symbol close :: rest) = true := by
  cases items with
  | nil =>
    simp only [List.mem_cons, List.not_mem_nil, or_false] at closing
    rcases closing with rfl | rfl | rfl <;> rfl
  | cons => rfl

theorem head?_commaed {close : String} (closing : close ∈ [")", "]", "\x7d"]) {mark : String}
    (other : mark ∉ [",", ")", "]", "\x7d"]) :
    (commaed items ++ .symbol close :: rest).head? ≠ some (.symbol mark) := by
  simp only [List.mem_cons, List.not_mem_nil, or_false, not_or] at closing other
  cases items with
  | nil => rcases closing with rfl | rfl | rfl <;> simp [other, eq_comm]
  | cons => simp [other, eq_comm]

theorem startsLoop_of_stops (stop : stops rest = true) : startsLoop rest = false := by
  obtain ⟨others, rfl | rfl | rfl | rfl | rfl | rfl | rfl⟩ := cases_of_stops stop <;> rfl

inductive Argument : ArgumentPlace → List Token → Prop
  | positional {tokens : List Token} {shape : Shape} (heads : Heads tokens shape) :
    Argument .any tokens
  | named {word : String} {tokens : List Token} {shape : Shape}
    (legal : word ∉ Naming.keywords) (heads : Heads tokens shape) :
    Argument .named (.name word :: .symbol "=" :: tokens)

theorem moreArguments_argument (argument : Argument place tokens)
    (begun : start = .any ∨ start = place) (enough : 8 * tokens.length + 8 ≤ n) :
    moreArguments (n + 1) start (tokens ++ (commaed items ++ .symbol ")" :: rest))
      = nextArgument n place (commaed items ++ .symbol ")" :: rest) := by
  cases argument with
  | positional heads =>
    obtain rfl : start = .any := begun.elim id id
    rw [moreArguments, heads.named_eq (stops_commaed (by decide)) enough]
    · rfl
    · exact heads.append_ne (by decide)
    · exact heads.append_ne (by decide)
    · exact heads.append_ne (by decide)
    · exact heads.not_naming (by decide) (head?_commaed (by decide) (by decide))
  | @named word value shape legal heads =>
    simp only [List.length_cons] at enough
    have read : expression n (value ++ (commaed items ++ .symbol ")" :: rest))
        = some (shape, commaed items ++ .symbol ")" :: rest) :=
      heads.expression_eq (stops_commaed (by decide)) (by omega)
    rcases begun with rfl | rfl <;> simp [moreArguments, legal, read]

theorem nextArgument_arguments (arguments : ∀ item ∈ items, Argument place item)
    (enough : 8 * (commaed items).length + 2 ≤ n) :
    nextArgument n place (commaed items ++ .symbol ")" :: rest) = some rest := by
  induction items generalizing n with
  | nil =>
    obtain ⟨m, rfl⟩ : ∃ m, n = m + 1 := ⟨n - 1, by omega⟩
    simp [nextArgument, symbol]
  | cons item items ih =>
    obtain ⟨here, later⟩ := List.forall_mem_cons.mp arguments
    simp only [commaed_cons, List.length_cons, List.length_append] at enough
    obtain ⟨m, rfl⟩ : ∃ m, n = m + 2 := ⟨n - 2, by omega⟩
    rw [commaed_cons, List.cons_append, List.append_assoc, nextArgument,
      moreArguments_argument here (.inr rfl) (by omega), ih later (by omega)]

theorem moreArguments_eq (arguments : ∀ item ∈ first :: items, Argument place item)
    (enough : 8 * (first ++ commaed items).length + 9 ≤ n) :
    moreArguments n .any (first ++ (commaed items ++ .symbol ")" :: rest)) = some rest := by
  obtain ⟨here, later⟩ := List.forall_mem_cons.mp arguments
  rw [List.length_append] at enough
  obtain ⟨m, rfl⟩ : ∃ m, n = m + 1 := ⟨n - 1, by omega⟩
  rw [moreArguments_argument here (.inl rfl) (by omega), nextArgument_arguments later (by omega)]

theorem arguments_eq (arguments : ∀ item ∈ first :: items, Argument place item)
    (enough : 8 * (first ++ commaed items).length + 10 ≤ n) :
    Source.arguments n (first ++ (commaed items ++ .symbol ")" :: rest)) = some rest := by
  obtain ⟨m, rfl⟩ : ∃ m, n = m + 1 := ⟨n - 1, by omega⟩
  obtain ⟨here, later⟩ := List.forall_mem_cons.mp arguments
  have length : (first ++ commaed items).length = first.length + (commaed items).length :=
    List.length_append
  rw [Source.arguments]
  cases here with
  | positional heads =>
    have stop : stops (commaed items ++ .symbol ")" :: rest) = true := stops_commaed (by decide)
    have positional : startsKeyword (first ++ (commaed items ++ .symbol ")" :: rest)) = false := by
      have unnamed : ∀ s more, first ++ (commaed items ++ .symbol ")" :: rest)
          ≠ .name s :: .symbol "=" :: more :=
        heads.not_naming (by decide) (head?_commaed (by decide) (by decide))
      unfold startsKeyword
      split
      · next same => exact absurd same (unnamed _ _)
      · rfl
    rw [heads.startsExpression_append, positional, heads.named_eq stop (by omega)]
    simp only [Bool.not_false, Bool.and_self, if_true, Option.bind_eq_bind, Option.bind_some,
      startsLoop_of_stops stop]
    exact nextArgument_arguments later (by omega)
  | @named word value shape legal heads =>
    have keyword : startsKeyword (.name word :: .symbol "=" :: value
      ++ (commaed items ++ .symbol ")" :: rest)) = true := rfl
    rw [keyword, Bool.not_true, Bool.and_false, if_neg Bool.false_ne_true]
    exact moreArguments_eq arguments (by omega)

theorem subscript_of_heads (heads : Heads tokens shape)
    (next : rest.head? = some (.symbol ",") ∨ rest.head? = some (.symbol "]"))
    (enough : 8 * tokens.length + 8 ≤ n) : subscript n (tokens ++ rest) = some rest := by
  obtain ⟨m, rfl⟩ : ∃ m, n = m + 1 := ⟨n - 1, by omega⟩
  obtain ⟨mark, others, rfl, marks⟩ : ∃ mark others, rest = .symbol mark :: others ∧
      mark ∈ [",", "]"] := by
    rcases next with same | same <;> obtain ⟨others, rfl⟩ := List.head?_eq_some_iff.mp same
    · exact ⟨_, others, rfl, by decide⟩
    · exact ⟨_, others, rfl, by decide⟩
  simp only [List.mem_cons, List.not_mem_nil, or_false] at marks
  have stop : stops (.symbol mark :: others) = true := by rcases marks with rfl | rfl <;> rfl
  have other : mark ≠ ":=" := by rcases marks with rfl | rfl <;> decide
  rw [subscript, heads.expression_eq stop (by omega)]
  · rcases marks with rfl | rfl <;> rfl
  · exact heads.append_ne (by decide)
  · exact heads.not_naming (by decide) (by simp [other])
  · exact heads.append_ne (by decide)

theorem subscripts_eq (heads : ∀ item ∈ first :: items, ∃ shape, Heads item shape)
    (enough : 8 * (first ++ commaed items).length + 9 ≤ n) :
    subscripts n (first ++ (commaed items ++ .symbol "]" :: rest)) = some rest := by
  induction items generalizing first n with
  | nil =>
    obtain ⟨shape, heads⟩ := heads first List.mem_cons_self
    obtain ⟨m, rfl⟩ : ∃ m, n = m + 1 := ⟨n - 1, by omega⟩
    rw [commaed_nil, List.append_nil] at enough
    rw [commaed_nil, List.nil_append, subscripts, subscript_of_heads heads (.inr rfl) (by omega)]
    simp [symbol]
  | cons item items ih =>
    obtain ⟨⟨shape, heads⟩, others⟩ := List.forall_mem_cons.mp heads
    obtain ⟨m, rfl⟩ : ∃ m, n = m + 1 := ⟨n - 1, by omega⟩
    simp only [commaed_cons, List.length_append, List.length_cons] at enough
    have later := ih (n := m) others (by rw [List.length_append]; omega)
    obtain ⟨_, next⟩ := others item List.mem_cons_self
    rw [commaed_cons, List.cons_append, List.append_assoc, subscripts,
      subscript_of_heads heads (.inl rfl) (by omega)]
    simp only [Option.bind_eq_bind, Option.bind_some]
    split
    · next same => exact absurd (List.cons.inj same).2 (next.append_ne (by decide) _)
    · next same =>
      rw [← (List.cons.inj same).2]
      exact later
    · next other => exact absurd rfl (other _)

theorem items_eq {close : String} (closing : close ∈ [")", "]", "\x7d"])
    (heads : ∀ item ∈ first :: items, Heads item shape)
    (enough : 8 * (first ++ commaed items).length + 10 ≤ n) :
    Source.items n (first ++ (commaed items ++ .symbol close :: rest))
      = some (shape :: items.map (fun _ => shape), .symbol close :: rest) := by
  induction items generalizing first n with
  | nil =>
    have heads := heads first List.mem_cons_self
    obtain ⟨m, rfl⟩ : ∃ m, n = m + 1 := ⟨n - 1, by omega⟩
    rw [commaed_nil, List.append_nil] at enough
    have stop : stops (commaed [] ++ .symbol close :: rest) = true := stops_commaed closing
    rw [Source.items, heads.startsItem_append, heads.item_eq stop (by omega)]
    simp only [List.mem_cons, List.not_mem_nil, or_false] at closing
    rcases closing with rfl | rfl | rfl <;> simp
  | cons item items ih =>
    obtain ⟨heads, others⟩ := List.forall_mem_cons.mp heads
    obtain ⟨m, rfl⟩ : ∃ m, n = m + 1 := ⟨n - 1, by omega⟩
    simp only [commaed_cons, List.length_append, List.length_cons] at enough
    have later := ih (n := m) others (by rw [List.length_append]; omega)
    have stop : stops (commaed (item :: items) ++ .symbol close :: rest) = true :=
      stops_commaed closing
    rw [Source.items, heads.startsItem_append, heads.item_eq stop (by omega)]
    simp [later]

/-! ### Displays -/

theorem heads_emptyDisplay : Heads [.symbol "[", .symbol "]"] (.display []) where
  starts := rfl
  unnamed := by decide
  reads := ⟨1, by decide, fun n rest _ enough => by
    obtain ⟨m, rfl⟩ : ∃ m, n = m + 1 := ⟨n - 1, by simp at enough; omega⟩
    simp [primary, atom]⟩

theorem heads_display (heads : ∀ item ∈ first :: items, Heads item shape) :
    Heads (.symbol "[" :: (first ++ (commaed items ++ [.symbol "]"])))
      (.display (shape :: items.map fun _ => shape)) where
  starts := rfl
  unnamed name member same := by
    obtain ⟨t, others, rfl, starts⟩ := exists_startsAtom (heads first List.mem_cons_self).starts
    obtain rfl : t = .symbol name := by simpa using same
    have bracket : name = "[" ∨ name = "\x7b" := by simpa [startsAtom] using starts
    rcases bracket with rfl | rfl <;> exact absurd member (by decide)
  reads := by
    refine ⟨1, by simp, fun n rest _ enough => ?_⟩
    simp only [List.length_append, List.length_cons, List.length_nil] at enough
    obtain ⟨m, rfl⟩ : ∃ m, n = m + 1 := ⟨n - 1, by omega⟩
    obtain ⟨here, others⟩ := List.forall_mem_cons.mp heads
    have stop : stops (commaed items ++ .symbol "]" :: rest) = true := stops_commaed (by decide)
    have shown : .symbol "[" :: (first ++ (commaed items ++ [.symbol "]"])) ++ rest
        = .symbol "[" :: (first ++ (commaed items ++ .symbol "]" :: rest)) := by simp
    have read : atom (m + 1) (.symbol "[" :: (first ++ (commaed items ++ .symbol "]" :: rest)))
        = some (.display (shape :: items.map fun _ => shape), rest) := by
      rw [atom, here.item_eq stop (by omega)]
      · cases items with
        | nil => simp [startsLoop, symbol]
        | cons item items =>
          have later : Source.items m (item ++ (commaed items ++ .symbol "]" :: rest))
              = some (shape :: items.map (fun _ => shape), .symbol "]" :: rest) :=
            items_eq (by decide) others (by simp at enough ⊢; omega)
          simp [later, symbol]
      · exact here.append_ne (by decide)
    rw [shown, primary, read]
    rfl

/-! ### Trailers -/

namespace Heads

theorem append (heads : Heads tokens shape) {mark : String} {trailer : List Token} {after : Shape}
    (marks : mark ∈ [".", "(", "["])
    (reads : ∀ n rest, 8 * (trailer.length + 1) ≤ n →
      trailers (n + 1) shape (.symbol mark :: (trailer ++ rest)) = trailers n after rest) :
    Heads (tokens ++ .symbol mark :: trailer) after where
  starts := heads.starts_append
  unnamed name member same := by
    obtain ⟨t, others, rfl, -⟩ := exists_startsAtom heads.starts
    cases others with
    | nil =>
      obtain rfl : mark = name := by simpa using same
      exact absurd member ((by decide : ∀ mark ∈ [".", "(", "["], mark ∉ ["=", ":="]) mark marks)
    | cons next others => exact heads.unnamed name member same
  reads := by
    obtain ⟨steps, few, here⟩ := heads.reads
    have positive := heads.length_pos
    refine ⟨steps + 1, by simp; omega, fun n rest follow enough => ?_⟩
    simp only [List.length_append, List.length_cons] at enough
    rw [List.append_assoc, List.cons_append, ← Nat.add_assoc, Nat.add_right_comm,
      here _ _ rfl (by omega), reads n rest (by omega)]

theorem field (heads : Heads tokens shape) {word : String} (legal : word ∉ Naming.keywords) :
    Heads (tokens ++ [.symbol ".", .name word]) .place :=
  heads.append (by decide) fun n rest _ => by simp [trailers, name, legal]

theorem call (heads : Heads tokens shape)
    (arguments : ∀ item ∈ first :: items, Argument place item) :
    Heads (tokens ++ .symbol "(" :: (first ++ (commaed items ++ [.symbol ")"]))) .other :=
  heads.append (by decide) fun n rest enough => by
    have read : Source.arguments n (first ++ (commaed items ++ .symbol ")" :: rest)) = some rest :=
      arguments_eq arguments (by simp at enough ⊢; omega)
    simp [trailers, read]

theorem callEmpty (heads : Heads tokens shape) :
    Heads (tokens ++ [.symbol "(", .symbol ")"]) .other :=
  heads.append (by decide) fun n rest enough => by
    obtain ⟨m, rfl⟩ : ∃ m, n = m + 2 := ⟨n - 2, by omega⟩
    simp [trailers, Source.arguments, moreArguments, startsExpression]

theorem index (heads : Heads tokens shape) (each : ∀ item ∈ first :: items, ∃ shape, Heads item shape) :
    Heads (tokens ++ .symbol "[" :: (first ++ (commaed items ++ [.symbol "]"]))) .place :=
  heads.append (by decide) fun n rest enough => by
    have read : subscripts n (first ++ (commaed items ++ .symbol "]" :: rest)) = some rest :=
      subscripts_eq each (by simp at enough ⊢; omega)
    simp [trailers, read]

end Heads

end GraphqlRequests.Source
