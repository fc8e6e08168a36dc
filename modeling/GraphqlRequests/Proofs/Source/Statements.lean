import GraphqlRequests.Proofs.Source.Parsing

/-!
# Statements that are recognised

Statements in one line, and statements with a block below them, from the expressions that they hold.
A module is a list of statements, each read up to where the next one starts.
-/

namespace GraphqlRequests.Source

variable {tokens value rest ts : List Token} {shape : Shape} {n : Nat} {word : String}

/-! ### Lines -/

def IsSimple (tokens : List Token) : Prop :=
  ∀ n rest, 8 * tokens.length + 12 ≤ n →
    simpleStatement n (tokens ++ .newline :: rest) = some (.newline :: rest)

theorem Heads.expressions_eq (heads : Heads tokens shape) (stop : stops rest = true)
    (single : rest.head? ≠ some (.symbol ",")) (enough : 8 * tokens.length + 9 ≤ n) :
    expressions n (tokens ++ rest) = some (shape, rest) := by
  obtain ⟨m, rfl⟩ : ∃ m, n = m + 1 := ⟨n - 1, by omega⟩
  rw [expressions, heads.starExpression_eq stop (by omega)]
  simp only [Option.bind_eq_bind, Option.bind_some]
  split
  · exact absurd rfl single
  · rfl

theorem simpleStatement_of_heads (heads : Heads tokens shape) :
    simpleStatement n (tokens ++ rest) = expressionStatement n (tokens ++ rest) := by
  rw [simpleStatement] <;> exact heads.append_ne (by decide)

theorem isSimple_expression (heads : Heads tokens shape) : IsSimple tokens := by
  intro n rest enough
  rw [simpleStatement_of_heads heads, expressionStatement,
    heads.expressions_eq rfl (by simp) (by omega)]
  rfl

theorem expressions_name (legal : word ∉ Naming.keywords) (stop : stops rest = true)
    (single : rest.head? ≠ some (.symbol ",")) (enough : 17 ≤ n) :
    expressions n (.name word :: rest) = some (.name, rest) :=
  (heads_name legal).expressions_eq stop single enough

theorem simpleStatement_name (legal : word ∉ Naming.keywords) :
    simpleStatement n (.name word :: rest) = expressionStatement n (.name word :: rest) :=
  simpleStatement_of_heads (heads_name legal)

theorem isSimple_assignment (legal : word ∉ Naming.keywords) (heads : Heads value shape) :
    IsSimple (.name word :: .symbol "=" :: value) := by
  intro n rest enough
  simp only [List.length_cons] at enough
  obtain ⟨m, rfl⟩ : ∃ m, n = m + 1 := ⟨n - 1, by omega⟩
  have positive := heads.length_pos
  have assigned : assignments (m + 1) (value ++ .newline :: rest) = some (.newline :: rest) := by
    rw [assignments, heads.expressions_eq rfl (by simp) (by omega)]
    · rfl
    · exact heads.append_ne (by decide)
  rw [List.cons_append, List.cons_append, simpleStatement_name legal, expressionStatement,
    expressions_name legal rfl (by simp) (by omega)]
  simpa [Shape.isTargets, Shape.isTarget] using assigned

theorem isSimple_annotated {type : List Token} {kind : Shape} (legal : word ∉ Naming.keywords)
    (typed : Heads type shape) (heads : Heads value kind) :
    IsSimple (.name word :: .symbol ":" :: (type ++ .symbol "=" :: value)) := by
  intro n rest enough
  simp only [List.length_cons, List.length_append] at enough
  let after := type ++ .symbol "=" :: (value ++ .newline :: rest)
  have assigned : assigned n (value ++ .newline :: rest) = some (.newline :: rest) := by
    rw [Source.assigned, heads.expressions_eq rfl (by simp) (by omega)]
    · rfl
    · exact heads.append_ne (by decide)
  have annotated : annotated n after = some (.newline :: rest) := by
    rw [Source.annotated, typed.expression_eq rfl (by omega)]
    exact assigned
  have shown : .name word :: .symbol ":" :: (type ++ .symbol "=" :: value) ++ .newline :: rest
      = .name word :: .symbol ":" :: after := by simp [after]
  rw [shown, simpleStatement_name legal, expressionStatement,
    expressions_name legal rfl (by simp) (by omega)]
  simpa [Shape.isSingle] using annotated

theorem isSimple_return (heads : Heads value shape) : IsSimple (.name "return" :: value) := by
  intro n rest enough
  simp only [List.length_cons] at enough
  rw [List.cons_append, simpleStatement, optionalExpressions, heads.startsItem_append,
    heads.expressions_eq rfl (by simp) (by omega)]
  rfl

/-! ### Imports -/

def dotted (first : String) (others : List String) : List Token :=
  .name first :: others.flatMap fun part => [.symbol ".", .name part]

theorem dottedName_dotted {first : String} {others : List String} (legal : first ∉ Naming.keywords)
    (each : ∀ part ∈ others, part ∉ Naming.keywords) (ends : ∀ more, rest ≠ .symbol "." :: more) :
    dottedName (dotted first others ++ rest) = some rest := by
  induction others generalizing first with
  | nil =>
    rw [dotted, List.flatMap_nil, List.singleton_append, dottedName]
    · simp [name, legal]
    · intro s more same
      exact ends _ (List.cons.inj same).2
  | cons part others ih =>
    obtain ⟨here, later⟩ := List.forall_mem_cons.mp each
    have read := ih here later
    simpa [dotted, dottedName, legal] using read

theorem isSimple_import {first newName : String} {others : List String}
    (legal : first ∉ Naming.keywords) (each : ∀ part ∈ others, part ∉ Naming.keywords)
    (other : newName ∉ Naming.keywords) :
    IsSimple (.name "import" :: (dotted first others ++ [.name "as", .name newName])) := by
  intro n rest enough
  obtain ⟨m, rfl⟩ : ∃ m, n = m + 1 := ⟨n - 1, by omega⟩
  rw [List.cons_append, List.append_assoc, simpleStatement, importList,
    dottedName_dotted legal each (by simp)]
  simp [name, other]

theorem isSimple_fromImport {other : String} (legal : word ∉ Naming.keywords)
    (legal' : other ∉ Naming.keywords) :
    IsSimple [.name "from", .name word, .name "import", .name other] := by
  intro n rest enough
  obtain ⟨m, rfl⟩ : ∃ m, n = m + 1 := ⟨n - 1, by omega⟩
  let after := .name "import" :: .name other :: .newline :: rest
  have path : dottedName (.name word :: after) = some after := by
    have read : dottedName (dotted word [] ++ after) = some after :=
      dottedName_dotted legal (by simp) (by simp [after])
    exact read
  have dots : leadingDots (.name word :: after) = .name word :: after := rfl
  have differs : word ≠ "import" := by
    rintro rfl
    exact legal (by decide)
  have shown : [.name "from", .name word, .name "import", .name other] ++ .newline :: rest
      = .name "from" :: .name word :: after := rfl
  rw [shown, simpleStatement, importFrom]
  simp only [dots]
  split
  · next same => exact absurd (Token.name.inj (List.cons.inj same).1) differs
  · rw [path]
    simp [after, keyword, importList, name, legal']

/-! ### Statements -/

/-- The tokens are a statement, whatever follows. -/
structure IsStatement (tokens : List Token) : Prop where
  starts : tokens.head?.any (· ≠ .dedent) = true
  reads : ∀ n rest, 16 * tokens.length + 16 ≤ n → statement n (tokens ++ rest) = some rest

theorem isStatement_of_simple (simple : IsSimple tokens)
    (starts : tokens.head?.any (· ≠ .dedent) = true)
    (line : ∀ n rest, statement (n + 1) (tokens ++ rest) = simpleLine n (tokens ++ rest)) :
    IsStatement (tokens ++ [.newline]) where
  starts := by
    cases tokens with
    | nil => cases starts
    | cons t others => simpa using starts
  reads n rest enough := by
    rw [List.length_append] at enough
    obtain ⟨m, rfl⟩ : ∃ m, n = m + 2 := ⟨n - 2, by omega⟩
    rw [List.append_assoc, List.singleton_append, line, simpleLine, simple m rest (by omega)]
    rfl

def endings : List Token :=
  [.newline, .symbol ":", .symbol "=", .symbol "."]

theorem expression_ending {t : Token} (ending : t ∈ endings) (n : Nat) (more : List Token) :
    expression n (t :: more) = none := by
  simp only [endings, List.mem_cons, List.not_mem_nil, or_false] at ending
  -- Each level refuses the token since the level below does, and without fuel all of them do.
  have atom : ∀ n, atom n (t :: more) = none := by
    intro n
    cases n with
    | zero => rfl
    | succ n => rcases ending with rfl | rfl | rfl | rfl <;> simp [Source.atom]
  have factor : ∀ n, factor n (t :: more) = none := by
    intro n
    obtain _ | _ | n := n
    · rfl
    · rcases ending with rfl | rfl | rfl | rfl <;> simp [Source.factor, primary]
    · rcases ending with rfl | rfl | rfl | rfl <;> simp [Source.factor, primary, atom]
  have inversion : ∀ n, inversion n (t :: more) = none := by
    intro n
    obtain _ | _ | _ | n := n
    · rfl
    · rcases ending with rfl | rfl | rfl | rfl <;> simp [Source.inversion, comparison]
    · rcases ending with rfl | rfl | rfl | rfl <;>
        simp [Source.inversion, comparison, Source.sum]
    · rcases ending with rfl | rfl | rfl | rfl <;>
        simp [Source.inversion, comparison, Source.sum, factor]
  obtain _ | _ | n := n
  · rfl
  · rcases ending with rfl | rfl | rfl | rfl <;> simp [expression, disjunction]
  · rcases ending with rfl | rfl | rfl | rfl <;> simp [expression, disjunction, inversion]

theorem item_ending {t : Token} (ending : t ∈ endings) (n : Nat) (more : List Token) :
    item n (t :: more) = none := by
  have expression := fun n => expression_ending ending n more
  simp only [endings, List.mem_cons, List.not_mem_nil, or_false] at ending
  match n with
  | 0 => rfl
  | 1 => rcases ending with rfl | rfl | rfl | rfl <;> simp [item, named]
  | n + 2 => rcases ending with rfl | rfl | rfl | rfl <;> simp [item, named, expression]

/-- The word `match` starts a line where a line with another name would go on. -/
theorem cases_mark {mark : String} (marks : mark ∈ [":", "=", "."]) (n : Nat) (more : List Token) :
    cases n (.symbol mark :: more) = none := by
  cases n with
  | zero => rfl
  | succ n =>
    have ending : .symbol mark ∈ endings := by
      simp only [List.mem_cons, List.not_mem_nil, or_false] at marks
      rcases marks with rfl | rfl | rfl <;> decide
    rw [cases, subject, item_ending ending]
    rfl

theorem statement_of_heads (heads : Heads tokens shape)
    (next : tokens.head? = some (.name "match") →
      ∃ mark ∈ [":", "=", "."], ∃ more, (tokens ++ rest).tail = .symbol mark :: more) :
    statement (n + 1) (tokens ++ rest) = simpleLine n (tokens ++ rest) := by
  -- The word "match" may start an expression, so it is what follows that rules the statement out.
  by_cases pattern : tokens.head? = some (.name "match")
  · obtain ⟨others, rfl⟩ := List.head?_eq_some_iff.mp pattern
    obtain ⟨mark, marks, more, tail⟩ := next rfl
    have tail : others ++ rest = .symbol mark :: more := tail
    rw [List.cons_append, tail, statement, cases_mark marks]
  · obtain ⟨t, others, rfl, -⟩ := exists_startsAtom heads.starts
    have other : t ≠ .name "match" := fun same => pattern (by rw [same]; rfl)
    rw [statement]
    all_goals try exact heads.append_ne (by decide)
    exact fun more same => other (List.cons.inj same).1

theorem statement_name {mark : String} (legal : word ∉ Naming.keywords)
    (marks : mark ∈ [":", "=", "."]) : statement (n + 1) (.name word :: .symbol mark :: rest)
      = simpleLine n (.name word :: .symbol mark :: rest) :=
  statement_of_heads (heads_name legal) fun _ => ⟨mark, marks, rest, rfl⟩

theorem Heads.starts_ne_dedent (heads : Heads tokens shape) :
    tokens.head?.any (· ≠ .dedent) = true := by
  obtain ⟨t, others, rfl, starts⟩ := exists_startsAtom heads.starts
  have other : t ≠ .dedent := by
    rintro rfl
    cases starts
  simpa using other

theorem isStatement_expression (heads : Heads tokens shape)
    (next : tokens.head? = some (.name "match") →
      ∃ mark ∈ [":", "=", "."], ∃ more, tokens.tail = .symbol mark :: more) :
    IsStatement (tokens ++ [.newline]) := by
  refine isStatement_of_simple (isSimple_expression heads) heads.starts_ne_dedent fun n rest => ?_
  refine statement_of_heads heads fun pattern => ?_
  obtain ⟨mark, marks, more, tail⟩ := next pattern
  obtain ⟨t, others, rfl, -⟩ := exists_startsAtom heads.starts
  have tail : others = .symbol mark :: more := tail
  exact ⟨mark, marks, more ++ rest, by simp [tail]⟩

theorem isStatement_assignment (legal : word ∉ Naming.keywords) (heads : Heads value shape) :
    IsStatement (.name word :: .symbol "=" :: value ++ [.newline]) := by
  refine isStatement_of_simple (isSimple_assignment legal heads) rfl fun n rest => ?_
  exact statement_name legal (by decide)

theorem isStatement_annotated {type : List Token} {kind : Shape} (legal : word ∉ Naming.keywords)
    (typed : Heads type shape) (heads : Heads value kind) :
    IsStatement (.name word :: .symbol ":" :: (type ++ .symbol "=" :: value) ++ [.newline]) := by
  refine isStatement_of_simple (isSimple_annotated legal typed heads) rfl fun n rest => ?_
  exact statement_name legal (by decide)

theorem isStatement_return (heads : Heads value shape) :
    IsStatement (.name "return" :: value ++ [.newline]) :=
  isStatement_of_simple (isSimple_return heads) rfl fun n rest => by simp [statement]

theorem isStatement_import {first newName : String} {others : List String}
    (legal : first ∉ Naming.keywords) (each : ∀ part ∈ others, part ∉ Naming.keywords)
    (other : newName ∉ Naming.keywords) :
    IsStatement (.name "import" :: (dotted first others ++ [.name "as", .name newName])
      ++ [.newline]) :=
  isStatement_of_simple (isSimple_import legal each other) rfl fun n rest => by simp [statement]

theorem isStatement_fromImport {other : String} (legal : word ∉ Naming.keywords)
    (legal' : other ∉ Naming.keywords) :
    IsStatement ([.name "from", .name word, .name "import", .name other] ++ [.newline]) :=
  isStatement_of_simple (isSimple_fromImport legal legal') rfl fun n rest => by simp [statement]

theorem isStatement_of_run (fuel : Nat) (few : fuel ≤ 16 * tokens.length + 16)
    (starts : tokens.head?.any (· ≠ .dedent) = true)
    (run : ∀ n rest, statement (n + fuel) (tokens ++ rest) = some rest) : IsStatement tokens where
  starts := starts
  reads n rest enough := by
    obtain ⟨m, rfl⟩ : ∃ m, n = m + fuel := ⟨n - fuel, by omega⟩
    exact run m rest

/-! ### Blocks -/

def suite (body : List (List Token)) : List Token :=
  .symbol ":" :: .newline :: .indent :: (body.flatten ++ [.dedent])

variable {first : List Token} {body items : List (List Token)}

theorem IsStatement.length_pos (isStatement : IsStatement tokens) : 0 < tokens.length := by
  cases tokens with
  | nil => cases isStatement.starts
  | cons => exact Nat.succ_pos _

theorem blockRest_eq (statements : ∀ s ∈ body, IsStatement s)
    (enough : 16 * body.flatten.length + 17 ≤ n) :
    blockRest n (body.flatten ++ .dedent :: rest) = some rest := by
  induction body generalizing n with
  | nil =>
    obtain ⟨m, rfl⟩ : ∃ m, n = m + 1 := ⟨n - 1, by omega⟩
    simp [blockRest]
  | cons s body ih =>
    obtain ⟨here, later⟩ := List.forall_mem_cons.mp statements
    have positive := here.length_pos
    simp only [List.flatten_cons, List.length_append] at enough
    obtain ⟨m, rfl⟩ : ∃ m, n = m + 1 := ⟨n - 1, by omega⟩
    rw [List.flatten_cons, List.append_assoc, blockRest, here.reads _ _ (by omega)]
    · exact ih later (by omega)
    · intro more same
      have starts := here.starts
      cases s with
      | nil => cases starts
      | cons t others =>
        obtain rfl := (List.cons.inj same).1
        simp at starts

theorem block_suite (statements : ∀ s ∈ first :: body, IsStatement s)
    (enough : 16 * (suite (first :: body)).length ≤ n) :
    block n (suite (first :: body) ++ rest) = some rest := by
  obtain ⟨here, later⟩ := List.forall_mem_cons.mp statements
  have positive := here.length_pos
  simp only [suite, List.flatten_cons, List.length_append, List.length_cons, List.length_nil]
    at enough
  obtain ⟨m, rfl⟩ : ∃ m, n = m + 1 := ⟨n - 1, by omega⟩
  have shown : suite (first :: body) ++ rest = .symbol ":" :: .newline :: .indent ::
      (first ++ (body.flatten ++ .dedent :: rest)) := by simp [suite]
  rw [shown, block, here.reads _ _ (by omega)]
  exact blockRest_eq later (by omega)

theorem isStatement_class {base : List Token} {bases : List (List Token)}
    (legal : word ∉ Naming.keywords) (each : ∀ item ∈ base :: bases, Argument .any item)
    (statements : ∀ s ∈ first :: body, IsStatement s) :
    IsStatement (.name "class" :: .name word :: .symbol "(" ::
      (base ++ (commaed bases ++ .symbol ")" :: suite (first :: body)))) where
  starts := rfl
  reads n rest enough := by
    simp only [List.length_cons, List.length_append] at enough
    obtain ⟨m, rfl⟩ : ∃ m, n = m + 1 := ⟨n - 1, by omega⟩
    have given : moreArguments m .any (base ++ (commaed bases ++ .symbol ")" ::
        (suite (first :: body) ++ rest))) = some (suite (first :: body) ++ rest) :=
      moreArguments_eq each (by rw [List.length_append]; omega)
    have inside : block m (suite (first :: body) ++ rest) = some rest :=
      block_suite statements (by omega)
    simp only [List.cons_append, List.append_assoc]
    simp [statement, name, legal, given, inside]

def IsParameters (tokens : List Token) : Prop :=
  ∀ n rest, 8 * tokens.length + 16 ≤ n →
    parameters n true ")" {} (tokens ++ .symbol ")" :: rest) = some rest

theorem name_eq (legal : word ∉ Naming.keywords) : name (.name word :: rest) = some rest :=
  if_neg legal

theorem annotation_none (plain : ∀ more, rest ≠ .symbol ":" :: more) :
    annotation (n + 1) true false rest = some rest := by
  rw [ annotation]
  exact fun more _ same => plain more same

theorem annotation_of_heads (typed : Heads tokens shape) (stop : stops rest = true)
    (enough : 8 * tokens.length + 7 ≤ n) :
    annotation (n + 1) true false (.symbol ":" :: (tokens ++ rest)) = some rest := by
  rw [ annotation, if_neg Bool.false_ne_true, typed.expression_eq stop enough]
  rfl

theorem isParameters_single (legal : word ∉ Naming.keywords) : IsParameters [.name word] := by
  intro n rest enough
  obtain ⟨m, rfl⟩ : ∃ m, n = m + 2 := ⟨n - 2, by omega⟩
  rw [List.singleton_append, parameters, name_eq legal, Option.bind_eq_bind, Option.bind_some,
    annotation_none (by simp)]
  rfl

theorem isParameters_annotated {other : String} {type : List Token} (legal : word ∉ Naming.keywords)
    (legal' : other ∉ Naming.keywords) (typed : Heads type shape) :
    IsParameters (.name word :: .symbol "," :: .name other :: .symbol ":" :: type) := by
  intro n rest enough
  simp only [List.length_cons] at enough
  obtain ⟨m, rfl⟩ : ∃ m, n = m + 4 := ⟨n - 4, by omega⟩
  let after := .symbol ":" :: (type ++ .symbol ")" :: rest)
  have second : parameters (m + 2) true ")" ⟨true, false, false, false, false⟩
      (.name other :: after) = some rest := by
    rw [parameters, name_eq legal', Option.bind_eq_bind, Option.bind_some,
      annotation_of_heads typed rfl (by omega)]
    rfl
  have shown : .name word :: .symbol "," :: .name other :: .symbol ":" :: type ++ .symbol ")" :: rest
      = .name word :: .symbol "," :: .name other :: after := by simp [after]
  rw [shown, parameters, name_eq legal, Option.bind_eq_bind, Option.bind_some,
    annotation_none (by simp)]
  exact second

theorem isStatement_def {given result : List Token} (legal : word ∉ Naming.keywords)
    (listed : IsParameters given) (typed : Heads result shape)
    (statements : ∀ s ∈ first :: body, IsStatement s) :
    IsStatement (.name "def" :: .name word :: .symbol "(" ::
      (given ++ .symbol ")" :: .symbol "->" :: (result ++ suite (first :: body)))) where
  starts := rfl
  reads n rest enough := by
    simp only [List.length_cons, List.length_append] at enough
    obtain ⟨m, rfl⟩ : ∃ m, n = m + 1 := ⟨n - 1, by omega⟩
    have parameters := listed m (.symbol "->" :: (result ++ suite (first :: body)) ++ rest)
      (by omega)
    have expression : expression m (result ++ (suite (first :: body) ++ rest))
        = some (shape, suite (first :: body) ++ rest) := typed.expression_eq rfl (by omega)
    have inside : block m (suite (first :: body) ++ rest) = some rest :=
      block_suite statements (by omega)
    simp only [List.cons_append, List.append_assoc] at parameters ⊢
    simp [statement, name, symbol, legal, parameters, expression, inside]

theorem isStatement_decorated (legal : word ∉ Naming.keywords)
    (isStatement : IsStatement (.name "def" :: tokens)) :
    IsStatement (.symbol "@" :: .name word :: .newline :: .name "def" :: tokens) where
  starts := rfl
  reads n rest enough := by
    simp only [List.length_cons] at enough
    obtain ⟨m, rfl⟩ : ∃ m, n = m + 1 := ⟨n - 1, by omega⟩
    let after := .newline :: .name "def" :: (tokens ++ rest)
    have read : named m ([.name word] ++ after) = some (.name, after) :=
      (heads_name legal).named_eq rfl (by simp; omega)
    have inside := isStatement.reads m rest (by simp only [List.length_cons]; omega)
    rw [List.singleton_append] at read
    rw [List.cons_append] at inside
    simp [statement, read, inside, after]

/-! ### Modules -/

theorem statements_append (each : ∀ s ∈ body, IsStatement s)
    (enough : 16 * (body.flatten ++ rest).length + 17 ≤ n) : ∃ m, 16 * rest.length + 17 ≤ m ∧
      statements n (body.flatten ++ rest) = statements m rest := by
  induction body generalizing n with
  | nil => exact ⟨n, by simpa using enough, rfl⟩
  | cons s body ih =>
    obtain ⟨here, later⟩ := List.forall_mem_cons.mp each
    have positive := here.length_pos
    simp only [List.flatten_cons, List.append_assoc, List.length_append] at enough
    obtain ⟨m, rfl⟩ : ∃ m, n = m + 1 := ⟨n - 1, by omega⟩
    rw [List.flatten_cons, List.append_assoc, statements, here.reads _ _ (by omega)]
    · exact ih later (by rw [List.length_append]; omega)
    · exact fun none => Nat.ne_of_gt positive (by simp [(List.append_eq_nil_iff.mp none).1])

theorem le_depthFor (ts : List Token) : 16 * ts.length + 17 ≤ depthFor ts := by
  rw [depthFor]
  omega

theorem statements_depthFor (each : ∀ s ∈ body, IsStatement s) :
    statements (depthFor body.flatten) body.flatten = true := by
  obtain ⟨m, -, same⟩ := statements_append each (le_depthFor (body.flatten ++ []))
  rw [List.append_nil] at same
  rw [same]
  cases m <;> rfl

/-- No statement starts with the tokens. -/
structure Refuses (tokens : List Token) : Prop where
  nonempty : tokens ≠ []
  refuses : ∀ n, 16 * tokens.length + 16 ≤ n → statement n tokens = none

theorem Refuses.statements_depthFor (refuses : Refuses rest) (each : ∀ s ∈ body, IsStatement s) :
    statements (depthFor (body.flatten ++ rest)) (body.flatten ++ rest) = false := by
  obtain ⟨m, enough, same⟩ := statements_append each (le_depthFor (body.flatten ++ rest))
  obtain ⟨k, rfl⟩ : ∃ k, m = k + 1 := ⟨m - 1, by omega⟩
  rw [same, statements, refuses.refuses k (by omega)]
  exact refuses.nonempty

theorem refuses_className {t : Token} (illegal : name (t :: rest) = none) :
    Refuses (.name "class" :: t :: rest) where
  nonempty := by simp
  refuses n _ := by
    cases n with
    | zero => rfl
    | succ n => simp [statement, illegal]

theorem refuses_class {base : List Token} {bases : List (List Token)}
    (legal : word ∉ Naming.keywords) (each : ∀ item ∈ base :: bases, Argument .any item)
    (other : rest.head? ≠ some .indent) :
    Refuses (.name "class" :: .name word :: .symbol "(" ::
      (base ++ (commaed bases ++ .symbol ")" :: .symbol ":" :: .newline :: rest))) where
  nonempty := by simp
  refuses n enough := by
    simp only [List.length_cons, List.length_append] at enough
    obtain ⟨m, rfl⟩ : ∃ m, n = m + 3 := ⟨n - 3, by omega⟩
    have given : moreArguments (m + 2) .any (base ++ (commaed bases ++ .symbol ")" ::
        .symbol ":" :: .newline :: rest)) = some (.symbol ":" :: .newline :: rest) :=
      moreArguments_eq each (by rw [List.length_append]; omega)
    have ending : .newline ∈ endings := by decide
    have line : ∀ m, simpleLine m (.newline :: rest) = none := by
      intro m
      cases m with
      | zero => rfl
      | succ m =>
        have none : expressions m (.newline :: rest) = none := by
          match m with
          | 0 => rfl
          | 1 => rfl
          | m + 2 => simp [expressions, starExpression, expression_ending ending]
        simp [simpleLine, simpleStatement, expressionStatement, none]
    have body : block (m + 2) (.symbol ":" :: .newline :: rest) = none := by
      rw [block]
      · exact line _
      · exact fun more same => other (by rw [(List.cons.inj same).2]; rfl)
    simp [statement, name, legal, given, body]

end GraphqlRequests.Source
