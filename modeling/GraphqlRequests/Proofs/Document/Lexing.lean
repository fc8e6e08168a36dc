import GraphqlRequests.Proofs.Document.Syntax

/-!
# The tokens of written selections

Between tokens the lexer is idle. A text that takes the idle lexer back to idleness adds its tokens
to those before, so such texts can be put together line by line.
-/

namespace GraphqlRequests.Document

open Sdl (Token Lexer)

/-- Read by an idle lexer, the characters leave it idle and add the tokens. -/
def Lexes (chars : List Char) (tokens : List Token) : Prop :=
  ∀ before, chars.foldlM Lexer.step ⟨.idle, before⟩ = some ⟨.idle, tokens.reverse ++ before⟩

def LineLexes (line : String) (tokens : List Token) : Prop :=
  Lexes (line.toList ++ ['\n']) tokens

theorem Lexes.nil : Lexes [] [] := fun _ => rfl

theorem Lexes.append {first second : List Char} {tokens others : List Token}
    (left : Lexes first tokens) (right : Lexes second others) :
    Lexes (first ++ second) (tokens ++ others) := by
  intro before
  rw [List.foldlM_append, left before]
  exact (right _).trans (by rw [List.reverse_append, List.append_assoc])

theorem lexes_ignored {c : Char} (ignored : Lexer.isIgnored c = true) : Lexes [c] [] := by
  intro before
  simp [Lexer.step, Lexer.idleStep, ignored]

theorem lexes_blank : Lexes [' '] [] := lexes_ignored rfl

theorem lexes_break : Lexes ['\n'] [] := lexes_ignored rfl

theorem lexes_open : Lexes ['{'] [.mark "\x7b"] := fun _ => rfl

theorem lexes_close : Lexes ['}'] [.mark "\x7d"] := fun _ => rfl

theorem lexes_dots : Lexes ['.', '.', '.'] [.mark "..."] := fun _ => rfl

theorem lexes_indent : Lexes Selection.indent.toList [] := fun _ => rfl

/-! ### Names -/

theorem exists_of_isName {chars : List Char} (named : Sdl.isName chars = true) :
    ∃ c rest, chars = c :: rest ∧ Sdl.startsName c = true ∧
      ∀ d ∈ rest, Sdl.continuesName d = true := by
  cases chars with
  | nil => cases named
  | cons c rest =>
    simp only [Sdl.isName, Bool.and_eq_true, List.all_eq_true] at named
    exact ⟨c, rest, rfl, named⟩

theorem not_mem_of_isName {name : String} (named : Sdl.isName name.toList = true) {c : Char}
    (stops : Sdl.continuesName c = false) : c ∉ name.toList := fun member =>
  Bool.false_ne_true (stops.symm.trans (Sdl.continuesName_of_isName named c member))

theorem not_special_of_continuesName {c : Char} (continues : Sdl.continuesName c = true) :
    Lexer.isIgnored c = false ∧ c ≠ '#' ∧ c ≠ '"' ∧ c ≠ '.' := by
  refine ⟨?_, ?_, ?_, ?_⟩
  · cases ignored : Lexer.isIgnored c with
    | false => rfl
    | true =>
      simp only [Lexer.isIgnored, Bool.or_eq_true, decide_eq_true_eq] at ignored
      rcases ignored with ((((rfl | rfl) | rfl) | rfl) | rfl) | rfl <;>
        exact absurd continues (by decide)
  all_goals rintro rfl; exact absurd continues (by decide)

theorem idleStep_startsName {c : Char} (starts : Sdl.startsName c = true) (before : List Token) :
    Lexer.idleStep before c = some ⟨.name [c], before⟩ := by
  obtain ⟨ignored, comment, quote, dot⟩ :=
    not_special_of_continuesName (Sdl.continuesName_of_startsName starts)
  simp [Lexer.idleStep, ignored, comment, quote, dot, starts]

theorem foldlM_name {chars : List Char} (name : ∀ c ∈ chars, Sdl.continuesName c = true)
    (read : List Char) (before : List Token) :
    chars.foldlM Lexer.step ⟨.name read, before⟩
      = some ⟨.name (chars.reverse ++ read), before⟩ := by
  induction chars generalizing read with
  | nil => rfl
  | cons c rest ih =>
    have here : Lexer.step ⟨.name read, before⟩ c = some ⟨.name (c :: read), before⟩ := by
      simp [Lexer.step, name c]
    rw [List.foldlM_cons, here]
    simp [ih fun d member => name d (List.mem_cons_of_mem _ member)]

def Stops (c : Char) : Prop :=
  Lexer.isIgnored c = true ∨ Lexer.isPunctuation c = true

instance (c : Char) : Decidable (Stops c) :=
  inferInstanceAs (Decidable (_ ∨ _))

theorem Stops.not_continuesName {c : Char} (stops : Stops c) : Sdl.continuesName c = false := by
  rcases stops with ignored | mark
  · cases continues : Sdl.continuesName c with
    | false => rfl
    | true => simp [(not_special_of_continuesName continues).1] at ignored
  · simp only [Lexer.isPunctuation, decide_eq_true_eq, List.mem_cons, List.not_mem_nil,
      or_false] at mark
    rcases mark with rfl | rfl | rfl | rfl | rfl | rfl | rfl | rfl | rfl | rfl | rfl | rfl | rfl
    all_goals rfl

theorem Stops.ne {c : Char} (stops : Stops c) (other : Char) (goes : ¬ Stops other) :
    c ≠ other := by
  rintro rfl
  exact goes stops

theorem Stops.not_extendsNumber {c : Char} (stops : Stops c) (chars : List Char) :
    Lexer.extendsNumber chars c = false := by
  have point := stops.ne '.' (by decide)
  have plus := stops.ne '+' (by decide)
  have minus := stops.ne '-' (by decide)
  simp [Lexer.extendsNumber, stops.not_continuesName, point, plus, minus]

/-- Read by an idle lexer, the characters have these tokens, once a character ends the last one. -/
def Closes (chars : List Char) (tokens : List Token) : Prop :=
  ∀ before stop, Stops stop → (chars ++ [stop]).foldlM Lexer.step ⟨.idle, before⟩
    = Lexer.idleStep (tokens.reverse ++ before) stop

theorem closes_name {name : String} (named : Sdl.isName name.toList = true) :
    Closes name.toList [.name name] := by
  obtain ⟨first, rest, chars, starts, continues⟩ := exists_of_isName named
  have whole : name = String.ofList (first :: rest) := by rw [← chars, String.ofList_toList]
  intro before stop stops
  rw [chars, List.cons_append, List.foldlM_cons]
  simp only [Lexer.step, idleStep_startsName starts, Option.bind_eq_bind, Option.bind_some,
    List.foldlM_append, foldlM_name continues]
  simp [Lexer.step, stops.not_continuesName, whole]

theorem lexes_name {name : String} (named : Sdl.isName name.toList = true) {c : Char}
    (ignored : Lexer.isIgnored c = true) : Lexes (name.toList ++ [c]) [.name name] := by
  intro before
  rw [closes_name named before c (.inl ignored), Lexer.idleStep, ignored]
  rfl

/-! ### Lines -/

theorem break_not_mem_indent {lines : List String} (plain : ∀ line ∈ lines, '\n' ∉ line.toList) :
    ∀ line ∈ lines.map (Selection.indent ++ ·), '\n' ∉ line.toList := by
  intro line member
  obtain ⟨inner, held, rfl⟩ := List.mem_map.mp member
  simpa [Selection.indent] using plain inner held

theorem break_not_mem_itemLines {items : List Item} (named : Named items) :
    ∀ line ∈ itemLines items, '\n' ∉ line.toList := by
  induction named with
  | nil => simp [itemLines]
  | leaf name _ ih =>
    have plain := not_mem_of_isName name (c := '\n') rfl
    simpa [itemLines, plain] using ih
  | nested name _ _ inside ih =>
    have plain := not_mem_of_isName name (c := '\n') rfl
    simp only [itemLines, List.forall_mem_cons, List.forall_mem_append]
    exact ⟨by simp [plain], break_not_mem_indent inside, by simp, ih⟩
  | spread key _ _ ih =>
    have plain := not_mem_of_isName key (c := '\n') rfl
    simpa [itemLines, Fragment.spread, plain] using ih

inductive LinesLex : List String → List Token → Prop where
  | nil : LinesLex [] []
  | cons {line lines tokens others} (first : LineLexes line tokens) (rest : LinesLex lines others) :
      LinesLex (line :: lines) (tokens ++ others)

theorem LinesLex.append {lines others : List String} {tokens more : List Token}
    (first : LinesLex lines tokens) (second : LinesLex others more) :
    LinesLex (lines ++ others) (tokens ++ more) := by
  induction first with
  | nil => exact second
  | cons here _ ih => rw [List.append_assoc]; exact .cons here ih

theorem LinesLex.single {line : String} {tokens : List Token} (lexes : LineLexes line tokens) :
    LinesLex [line] tokens := by
  simpa using LinesLex.cons lexes .nil

theorem LineLexes.indent {line : String} {tokens : List Token} (lexes : LineLexes line tokens) :
    LineLexes (Selection.indent ++ line) tokens := by
  rw [LineLexes, String.toList_append, List.append_assoc]
  exact lexes_indent.append lexes

theorem LinesLex.indent {lines : List String} {tokens : List Token} (lex : LinesLex lines tokens) :
    LinesLex (lines.map (Selection.indent ++ ·)) tokens := by
  induction lex with
  | nil => exact .nil
  | cons first _ ih => exact .cons first.indent ih

theorem lineLexes_empty : LineLexes "" [] := lexes_break

theorem lineLexes_close : LineLexes "\x7d" [.mark "\x7d"] :=
  lexes_close.append lexes_break

theorem lineLexes_name {name : String} (named : Sdl.isName name.toList = true) :
    LineLexes name [.name name] := lexes_name named rfl

theorem lineLexes_name_open {name : String} (named : Sdl.isName name.toList = true) :
    LineLexes (name ++ " \x7b") [.name name, .mark "\x7b"] := by
  have split : (name ++ " \x7b").toList ++ ['\n']
      = (name.toList ++ [' ']) ++ (['{'] ++ ['\n']) := by
    simp
  rw [LineLexes, split]
  exact (lexes_name named rfl).append (lexes_open.append lexes_break)

theorem lineLexes_spread {key : String} (named : Sdl.isName key.toList = true) :
    LineLexes (Fragment.spread key) [.mark "...", .name key] := by
  have split : (Fragment.spread key).toList ++ ['\n']
      = ['.', '.', '.'] ++ (key.toList ++ ['\n']) := by
    simp [Fragment.spread]
  rw [LineLexes, split]
  exact lexes_dots.append (lexes_name named rfl)

end GraphqlRequests.Document
