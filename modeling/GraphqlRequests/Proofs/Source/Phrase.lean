import GraphqlRequests.Proofs.Source.Lexing
import GraphqlRequests.Proofs.Source.Parsing

/-!
# Phrases

A phrase is an expression as it is spelled: its lexemes are legal and stand apart, its brackets are
closed, and its tokens are recognised. Phrases are put together as expressions are.
-/

namespace GraphqlRequests.Source

variable {lexemes others : List Lexeme} {depth more : Nat} {shape : Shape}

/-! ### Lexemes in a row -/

/-- The lexemes can be read one after the other, and close all brackets that they open, of which no
more than `depth` are open at once. -/
structure Spells (lexemes : List Lexeme) (depth : Nat) : Prop where
  legal : ∀ l ∈ lexemes, l.Legal
  apart : lexemes.IsChain fun l other => l.apart other = true
  nested : ∀ opened, opened.length + depth ≤ Literal.mostBrackets →
    lexemes.foldlM Lexeme.bracketsAfter opened = some opened

/-- A lexeme that an expression may start and end with: others may touch it, but for words and
literals. -/
def Lexeme.firm : Lexeme → Bool
  | .symbol _ | .blank | .turn => false
  | _ => true

def Lexeme.isPlain : Lexeme → Bool
  | .bracket _ | .turn => false
  | _ => true

theorem Lexeme.bracketsAfter_plain {l : Lexeme} (plain : l.isPlain = true) (opened : List Char) :
    l.bracketsAfter opened = some opened := by
  cases l with
  | word | symbol | literal | blank => rfl
  | bracket | turn => cases plain

namespace Spells

theorem mono (spells : Spells lexemes depth) (less : depth ≤ more) : Spells lexemes more :=
  ⟨spells.legal, spells.apart, fun opened few => spells.nested opened (by omega)⟩

theorem nil : Spells [] depth :=
  ⟨by simp, .nil, fun _ _ => rfl⟩

theorem append (first : Spells lexemes depth) (second : Spells others depth)
    (meet : ∀ l ∈ lexemes.getLast?, ∀ other ∈ others.head?, l.apart other = true) :
    Spells (lexemes ++ others) depth where
  legal l member := (List.mem_append.mp member).elim (first.legal l) (second.legal l)
  apart := List.isChain_append.mpr ⟨first.apart, second.apart, meet⟩
  nested opened few := by
    rw [List.foldlM_append, first.nested opened few]
    exact second.nested opened few

theorem plain (legal : ∀ l ∈ lexemes, l.Legal)
    (apart : lexemes.IsChain fun l other => l.apart other = true)
    (neutral : lexemes.all Lexeme.isPlain = true) : Spells lexemes depth where
  legal := legal
  apart := apart
  nested opened _ := by
    clear legal apart
    induction lexemes with
    | nil => rfl
    | cons l rest ih =>
      rw [List.all_cons, Bool.and_eq_true] at neutral
      rw [List.foldlM_cons, Lexeme.bracketsAfter_plain neutral.1]
      exact ih neutral.2

theorem separated (first : Spells lexemes depth) (second : Spells others depth) :
    Spells (lexemes ++ .blank :: others) depth := by
  have blank : Spells [.blank] depth := .plain (by simp [Lexeme.Legal]) (.singleton _) rfl
  refine first.append (blank.append second fun l last other _ => ?_) fun l _ other next => ?_
  · obtain rfl : Lexeme.blank = l := by simpa using last
    cases other <;> rfl
  · obtain rfl : Lexeme.blank = other := by simpa using next
    cases l <;> rfl

theorem word {text : String} (isWord : isWordText text.toList = true) : Spells [.word text] depth :=
  .plain (by simpa [Lexeme.Legal] using isWord) (.singleton _) rfl

theorem enclose (inside : Spells lexemes depth) {left right : Char}
    (pair : (left, right) ∈ [('(', ')'), ('[', ']')]) :
    Spells (.bracket left :: (lexemes ++ [.bracket right])) (depth + 1) := by
  have legal : Lexer.isBracket left = true ∧ Lexer.isBracket right = true ∧
      Literal.opener? left = none ∧ Literal.opener? right = some left := by
    simp only [List.mem_cons, List.not_mem_nil, or_false, Prod.mk.injEq] at pair
    rcases pair with ⟨rfl, rfl⟩ | ⟨rfl, rfl⟩ <;> decide
  obtain ⟨here, there, opens, closes⟩ := legal
  refine ⟨?_, ?_, fun opened few => ?_⟩
  · simp only [List.forall_mem_cons, List.forall_mem_append, List.not_mem_nil, false_imp_iff,
      implies_true, and_true]
    exact ⟨here, inside.legal, there⟩
  · refine List.isChain_cons.mpr ⟨fun l _ => by cases l <;> rfl, ?_⟩
    refine List.isChain_append.mpr ⟨inside.apart, .singleton _, fun l _ other same => ?_⟩
    obtain rfl : Lexeme.bracket right = other := by simpa using same
    cases l <;> rfl
  · have less : opened.length < Literal.mostBrackets := by omega
    have after := inside.nested (left :: opened) (by rw [List.length_cons]; omega)
    rw [List.foldlM_cons, Lexeme.bracketsAfter_bracket, Lexer.bracketsAfter, opens]
    simp only [less, if_true, Option.bind_eq_bind, Option.bind_some]
    rw [List.foldlM_append, after]
    simp [Lexeme.bracketsAfter_bracket, Lexer.bracketsAfter, closes]

end Spells

/-! ### Expressions -/

/-- The lexemes are spelled well, and their tokens are an atom with trailers. -/
structure Phrase (lexemes : List Lexeme) (depth : Nat) (shape : Shape) : Prop extends
    Spells lexemes depth where
  begins : lexemes.head?.any Lexeme.firm = true
  ends : lexemes.getLast?.any Lexeme.firm = true
  heads : Heads (tokensOf lexemes) shape

theorem forall_firm {found : Option Lexeme} (firm : found.any Lexeme.firm = true) :
    ∀ l ∈ found, l.firm = true := by
  rintro l rfl
  exact firm

theorem Lexeme.apart_symbol {l : Lexeme} (firm : l.firm = true) (text : String) :
    l.apart (.symbol text) = true := by
  cases l with
  | word | literal | bracket => rfl
  | symbol | blank | turn => cases firm

theorem Lexeme.symbol_apart {l : Lexeme} (firm : l.firm = true) (text : String) :
    (Lexeme.symbol text).apart l = true := by
  cases l with
  | word | literal | bracket => rfl
  | symbol | blank | turn => cases firm

theorem Lexeme.apart_bracket (l : Lexeme) (c : Char) : l.apart (.bracket c) = true := by
  cases l <;> rfl

theorem Phrase.mono (phrase : Phrase lexemes depth shape) (less : depth ≤ more) :
    Phrase lexemes more shape :=
  ⟨phrase.toSpells.mono less, phrase.begins, phrase.ends, phrase.heads⟩

theorem isName_iff {text : String} :
    isName text = true ↔ isWordText text.toList = true ∧ text ∉ Naming.keywords := by
  rw [isName, Bool.and_eq_true, decide_eq_true_eq]

/-! ### Atoms -/

theorem phrase_word {text : String} (legal : isName text = true) :
    Phrase [.word text] depth .name where
  toSpells := .plain (by simpa [Lexeme.Legal] using (isName_iff.mp legal).1) (.singleton _) rfl
  begins := rfl
  ends := rfl
  heads := heads_name (isName_iff.mp legal).2

theorem phrase_value {text : String} (value : text ∈ ["None", "True", "False"]) :
    Phrase [.word text] depth .other where
  toSpells := by
    have legal : isWordText text.toList = true := by
      simp only [List.mem_cons, List.not_mem_nil, or_false] at value
      rcases value with rfl | rfl | rfl <;> decide
    exact .plain (by simpa [Lexeme.Legal] using legal) (.singleton _) rfl
  begins := rfl
  ends := rfl
  heads := heads_value value

theorem phrase_literal {text : String} (legal : (Lexeme.literal text).Legal) :
    Phrase [.literal text] depth .other where
  toSpells := .plain (by simpa using legal) (.singleton _) rfl
  begins := rfl
  ends := rfl
  heads := heads_text

/-! ### Lists between brackets -/

def marks : List (List Lexeme) :=
  [[.symbol ",", .blank], [.symbol ":", .blank], [.blank, .symbol "=", .blank],
    [.blank, .symbol "->", .blank]]

theorem Spells.marked (mark : List Lexeme) (first : Spells lexemes depth)
    (second : Spells others depth) (ends : lexemes.getLast?.any Lexeme.firm = true)
    (listed : mark ∈ marks) : Spells (lexemes ++ (mark ++ others)) depth := by
  have spells : Spells mark depth ∧ mark.getLast? = some .blank ∧
      ∀ l ∈ lexemes.getLast?, ∀ other ∈ mark.head?, l.apart other = true := by
    simp only [marks, List.mem_cons, List.not_mem_nil, or_false] at listed
    have firm := forall_firm ends
    rcases listed with rfl | rfl | rfl | rfl
    all_goals
      refine ⟨.plain (by simp [Lexeme.Legal, Lexer.spelledSymbols]) (by decide) rfl, rfl,
        fun l last other next => ?_⟩
      obtain rfl := Option.some.inj next
    · exact Lexeme.apart_symbol (firm l last) _
    · exact Lexeme.apart_symbol (firm l last) _
    all_goals cases l <;> rfl
  obtain ⟨spells, last, meets⟩ := spells
  refine first.append (spells.append second fun l final other _ => ?_) fun l final other next => ?_
  · obtain rfl := Option.some.inj (last.symm.trans final)
    cases other <;> rfl
  · refine meets l final other ?_
    cases mark with
    | nil => cases last
    | cons => simpa using next

def spaced (items : List (List Lexeme)) : List Lexeme :=
  items.flatMap ([.symbol ",", .blank] ++ ·)

theorem tokensOf_spaced (items : List (List Lexeme)) :
    tokensOf (spaced items) = commaed (items.map tokensOf) := by
  induction items with
  | nil => rfl
  | cons item items ih =>
    rw [spaced, List.flatMap_cons, tokensOf_append, ← spaced, ih]
    rfl

variable {first : List Lexeme} {items : List (List Lexeme)} {place : ArgumentPlace}

theorem spells_listed (each : ∀ item ∈ first :: items,
      Spells item depth ∧ item.getLast?.any Lexeme.firm = true) :
    Spells (first ++ spaced items) depth := by
  induction items generalizing first with
  | nil =>
    rw [spaced, List.flatMap_nil, List.append_nil]
    exact (each first List.mem_cons_self).1
  | cons item items ih =>
    obtain ⟨⟨here, ends⟩, later⟩ := List.forall_mem_cons.mp each
    have whole := here.marked [.symbol ",", .blank] (ih later) ends (by simp [marks])
    simpa [spaced] using whole

inductive Given (depth : Nat) : ArgumentPlace → List Lexeme → Prop
  | positional {lexemes : List Lexeme} {shape : Shape} (phrase : Phrase lexemes depth shape) :
    Given depth .any lexemes
  | named {word : String} {lexemes : List Lexeme} {shape : Shape} (legal : isName word = true)
    (phrase : Phrase lexemes depth shape) :
    Given depth .named (.word word :: .symbol "=" :: lexemes)

namespace Given

variable (given : Given depth place lexemes)
include given

theorem argument : Argument place (tokensOf lexemes) := by
  cases given with
  | positional phrase => exact .positional phrase.heads
  | named legal phrase => exact .named (isName_iff.mp legal).2 phrase.heads

theorem spells : Spells lexemes depth ∧ lexemes.getLast?.any Lexeme.firm = true := by
  cases given with
  | positional phrase => exact ⟨phrase.toSpells, phrase.ends⟩
  | @named word lexemes shape legal phrase =>
    have start : Spells [.word word, .symbol "="] depth :=
      .plain (by simpa [Lexeme.Legal, Lexer.spelledSymbols] using (isName_iff.mp legal).1)
        (by simp [Lexeme.apart]) rfl
    refine ⟨start.append phrase.toSpells fun l last other next => ?_, ?_⟩
    · obtain rfl : Lexeme.symbol "=" = l := by simpa using last
      exact Lexeme.symbol_apart (forall_firm phrase.begins other next) _
    · have ends := phrase.ends
      cases lexemes with
      | nil => cases ends
      | cons l rest => simpa using ends

end Given

/-! ### Trailers and displays -/

theorem tokensOf_enclosed (left right : Char) : tokensOf (Lexeme.bracket left :: (first ++ spaced items
      ++ [.bracket right])) = .symbol (String.singleton left) :: (tokensOf first
        ++ (commaed (items.map tokensOf) ++ [.symbol (String.singleton right)])) := by
  have opening : tokensOf (.bracket left :: (first ++ spaced items ++ [.bracket right]))
      = .symbol (String.singleton left) :: tokensOf (first ++ spaced items ++ [.bracket right]) := rfl
  rw [opening, tokensOf_append, tokensOf_append, tokensOf_spaced, List.append_assoc]
  rfl

theorem getLast?_enclosed (lexemes : List Lexeme) (left right : Char) (inside : List Lexeme) :
    (lexemes ++ Lexeme.bracket left :: (inside ++ [.bracket right])).getLast?.any Lexeme.firm
      = true := by
  have shown : lexemes ++ .bracket left :: (inside ++ [.bracket right])
      = lexemes ++ .bracket left :: inside ++ [.bracket right] := by simp
  rw [shown, List.getLast?_append]
  rfl

namespace Phrase

theorem begins_append (phrase : Phrase lexemes depth shape) :
    (lexemes ++ others).head?.any Lexeme.firm = true := by
  have begins := phrase.begins
  cases lexemes with
  | nil => cases begins
  | cons l rest => simpa using begins

theorem field (phrase : Phrase lexemes depth shape) {word : String} (legal : isName word = true) :
    Phrase (lexemes ++ [.symbol ".", .word word]) depth .place where
  toSpells := by
    obtain ⟨isWord, -⟩ := isName_iff.mp legal
    have more : Spells [.symbol ".", .word word] depth :=
      .plain (by simpa [Lexeme.Legal, Lexer.spelledSymbols] using isWord) (by simp [Lexeme.apart])
        rfl
    refine phrase.toSpells.append more fun l last other next => ?_
    obtain rfl : Lexeme.symbol "." = other := by simpa using next
    exact Lexeme.apart_symbol (forall_firm phrase.ends l last) _
  begins := phrase.begins_append
  ends := by rw [List.getLast?_append]; rfl
  heads := by
    rw [tokensOf_append]
    exact phrase.heads.field (isName_iff.mp legal).2

theorem fields (phrase : Phrase lexemes depth shape) {words : List String}
    (legal : ∀ word ∈ words, isName word = true) : ∃ shape,
      Phrase (lexemes ++ words.flatMap fun word => [.symbol ".", .word word]) depth shape := by
  induction words generalizing lexemes shape with
  | nil => exact ⟨shape, by simpa using phrase⟩
  | cons word words ih =>
    obtain ⟨here, later⟩ := List.forall_mem_cons.mp legal
    obtain ⟨shape, longer⟩ := ih (phrase.field here) later
    exact ⟨shape, by simpa using longer⟩

theorem spells_enclosed (phrase : Phrase lexemes (depth + 1) shape) {left right : Char}
    (pair : (left, right) ∈ [('(', ')'), ('[', ']')]) (inside : List Lexeme)
    (inner : Spells inside depth) :
    Spells (lexemes ++ .bracket left :: (inside ++ [.bracket right])) (depth + 1) := by
  refine phrase.toSpells.append (inner.enclose pair) fun l _ other next => ?_
  obtain rfl : Lexeme.bracket left = other := by simpa using next
  exact l.apart_bracket left

theorem call (phrase : Phrase lexemes (depth + 1) shape)
    (each : ∀ item ∈ first :: items, Given depth place item) :
    Phrase (lexemes ++ .bracket '(' :: (first ++ spaced items ++ [.bracket ')'])) (depth + 1)
      .other where
  toSpells := phrase.spells_enclosed (by decide) _
    (spells_listed fun item member => (each item member).spells)
  begins := phrase.begins_append
  ends := getLast?_enclosed _ _ _ _
  heads := by
    have arguments : ∀ tokens ∈ tokensOf first :: items.map tokensOf, Argument place tokens := by
      rw [← List.map_cons]
      exact List.forall_mem_map.mpr fun item listed => (each item listed).argument
    rw [tokensOf_append, tokensOf_enclosed]
    exact phrase.heads.call arguments

theorem callEmpty (phrase : Phrase lexemes (depth + 1) shape) :
    Phrase (lexemes ++ [.bracket '(', .bracket ')']) (depth + 1) .other where
  toSpells := phrase.spells_enclosed (by decide) [] .nil
  begins := phrase.begins_append
  ends := getLast?_enclosed _ _ _ []
  heads := by
    rw [tokensOf_append]
    exact phrase.heads.callEmpty

theorem index (phrase : Phrase lexemes (depth + 1) shape)
    (each : ∀ item ∈ first :: items, ∃ shape, Phrase item depth shape) :
    Phrase (lexemes ++ .bracket '[' :: (first ++ spaced items ++ [.bracket ']'])) (depth + 1)
      .place where
  toSpells := phrase.spells_enclosed (by decide) _ (spells_listed fun item member => by
    obtain ⟨shape, phrase⟩ := each item member
    exact ⟨phrase.toSpells, phrase.ends⟩)
  begins := phrase.begins_append
  ends := getLast?_enclosed _ _ _ _
  heads := by
    have subscripts : ∀ tokens ∈ tokensOf first :: items.map tokensOf, ∃ shape, Heads tokens shape := by
      rw [← List.map_cons]
      exact List.forall_mem_map.mpr fun item listed => (each item listed).imp fun _ phrase => phrase.heads
    rw [tokensOf_append, tokensOf_enclosed]
    exact phrase.heads.index subscripts

end Phrase

theorem phrase_emptyDisplay : Phrase [.bracket '[', .bracket ']'] (depth + 1) (.display []) where
  toSpells := Spells.nil.enclose (by decide)
  begins := rfl
  ends := rfl
  heads := heads_emptyDisplay

theorem phrase_display (each : ∀ item ∈ first :: items, Phrase item depth shape) :
    Phrase (.bracket '[' :: (first ++ spaced items ++ [.bracket ']'])) (depth + 1)
      (.display (shape :: items.map fun _ => shape)) where
  toSpells := Spells.enclose (spells_listed fun item member =>
    ⟨(each item member).toSpells, (each item member).ends⟩) (by decide)
  begins := rfl
  ends := getLast?_enclosed [] _ _ _
  heads := by
    have shapes : (items.map fun _ => shape) = (items.map tokensOf).map fun _ => shape := by
      simp [Function.comp_def]
    have heads : ∀ tokens ∈ tokensOf first :: items.map tokensOf, Heads tokens shape := by
      rw [← List.map_cons]
      exact List.forall_mem_map.mpr fun item listed => (each item listed).heads
    rw [tokensOf_enclosed, shapes]
    exact heads_display heads

end GraphqlRequests.Source
