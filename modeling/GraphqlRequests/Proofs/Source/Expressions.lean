import GraphqlRequests.Proofs.Source.Phrase
import GraphqlRequests.Proofs.Source.Quoted
import GraphqlRequests.Text.Split

/-!
# Texts of expressions

The phrases of a generated text are put together as texts. Which lexemes they have shows only in
that they are expressions.
-/

namespace GraphqlRequests.Source

variable {text word : String} {items : List String} {depth more : Nat} {place : ArgumentPlace}

/-- The text is an expression with brackets nested at most `depth` deep. -/
def Expresses (text : String) (depth : Nat) : Prop :=
  ∃ lexemes shape, spelled lexemes = text.toList ∧ Phrase lexemes depth shape

def Gives (place : ArgumentPlace) (text : String) (depth : Nat) : Prop :=
  ∃ lexemes, spelled lexemes = text.toList ∧ Given depth place lexemes

/-! ### Lists of texts -/

theorem exists_lexemes {kind : List Lexeme → Prop}
    (each : ∀ item ∈ items, ∃ lexemes, spelled lexemes = item.toList ∧ kind lexemes) :
    ∃ lists : List (List Lexeme), lists.map spelled = items.map String.toList ∧
      ∀ lexemes ∈ lists, kind lexemes := by
  induction items with
  | nil => exact ⟨[], rfl, by simp⟩
  | cons item items ih =>
    obtain ⟨⟨lexemes, chars, here⟩, later⟩ := List.forall_mem_cons.mp each
    obtain ⟨lists, same, others⟩ := ih later
    exact ⟨lexemes :: lists, by simp [chars, same], List.forall_mem_cons.mpr ⟨here, others⟩⟩

theorem spelled_listed {first : List Lexeme} {lists : List (List Lexeme)}
    (same : (first :: lists).map spelled = items.map String.toList) :
    spelled (first ++ spaced lists) = (Text.join ", " items).toList := by
  induction lists generalizing first items with
  | nil =>
    obtain ⟨item, rfl⟩ : ∃ item, items = [item] := List.length_eq_one_iff.mp
      (by simpa using (congrArg List.length same).symm)
    simpa [spaced, Text.join] using same
  | cons next lists ih =>
    cases items with
    | nil => cases same
    | cons item items =>
      obtain ⟨here, later⟩ := List.cons.inj same
      have rest := ih later
      cases items with
      | nil => cases later
      | cons other items =>
        have shown : spaced (next :: lists) = [.symbol ",", .blank] ++ (next ++ spaced lists) := by
          simp [spaced]
        have joined : Text.join ", " (item :: other :: items)
            = item ++ ", " ++ Text.join ", " (other :: items) := rfl
        rw [shown, spelled_append, spelled_append, rest, here, joined]
        simp [Lexeme.chars]

/-! ### Atoms -/

theorem expresses_name (legal : isName text = true) : Expresses text depth :=
  ⟨[.word text], _, by simp [Lexeme.chars], phrase_word legal⟩

theorem expresses_value (value : text ∈ ["None", "True", "False"]) : Expresses text depth :=
  ⟨[.word text], _, by simp [Lexeme.chars], phrase_value value⟩

theorem expresses_quoted (text : String) : Expresses (Text.quoted text) depth :=
  ⟨[.literal (Text.quoted text)], _, by simp [Lexeme.chars], phrase_literal (legal_quoted text)⟩

theorem Gives.positional (expresses : Expresses text depth) : Gives .any text depth := by
  obtain ⟨lexemes, shape, chars, phrase⟩ := expresses
  exact ⟨lexemes, chars, .positional phrase⟩

theorem Gives.named (legal : isName word = true) (expresses : Expresses text depth) :
    Gives .named (word ++ "=" ++ text) depth := by
  obtain ⟨lexemes, shape, chars, phrase⟩ := expresses
  exact ⟨_, by simp [chars, Lexeme.chars], .named legal phrase⟩

/-! ### Trailers and displays -/

namespace Expresses

theorem mono (expresses : Expresses text depth) (less : depth ≤ more) : Expresses text more := by
  obtain ⟨lexemes, shape, chars, phrase⟩ := expresses
  exact ⟨lexemes, shape, chars, phrase.mono less⟩

theorem field (expresses : Expresses text depth) (legal : isName word = true) :
    Expresses (text ++ "." ++ word) depth := by
  obtain ⟨lexemes, shape, chars, phrase⟩ := expresses
  refine ⟨_, _, ?_, phrase.field legal⟩
  simp [chars, Lexeme.chars]

theorem call (items : List String) (expresses : Expresses text (depth + 1))
    (each : ∀ item ∈ items, Gives place item depth) :
    Expresses (text ++ "(" ++ Text.join ", " items ++ ")") (depth + 1) := by
  obtain ⟨lexemes, shape, chars, phrase⟩ := expresses
  obtain ⟨lists, same, given⟩ := exists_lexemes each
  cases lists with
  | nil =>
    obtain rfl : items = [] := by simpa using same.symm
    refine ⟨_, _, ?_, phrase.callEmpty⟩
    simp [chars, Lexeme.chars, Text.join]
  | cons first lists =>
    refine ⟨_, _, ?_, phrase.call given⟩
    rw [spelled_append, spelled_cons, spelled_append, spelled_listed same, chars]
    simp [Lexeme.chars]

theorem index (first : String) (items : List String) (expresses : Expresses text (depth + 1))
    (each : ∀ item ∈ first :: items, Expresses item depth) :
    Expresses (text ++ "[" ++ Text.join ", " (first :: items) ++ "]") (depth + 1) := by
  obtain ⟨lexemes, shape, chars, phrase⟩ := expresses
  have spelledOut : ∀ item ∈ first :: items, ∃ lexemes, spelled lexemes = item.toList ∧
      ∃ shape, Phrase lexemes depth shape := fun item member => by
    obtain ⟨lexemes, shape, chars, phrase⟩ := each item member
    exact ⟨lexemes, chars, shape, phrase⟩
  obtain ⟨lists, same, phrases⟩ := exists_lexemes spelledOut
  cases lists with
  | nil => cases same
  | cons head lists =>
    refine ⟨_, _, ?_, phrase.index phrases⟩
    rw [spelled_append, spelled_cons, spelled_append, spelled_listed same, chars]
    simp [Lexeme.chars]

end Expresses

theorem expresses_quotedList (items : List String) :
    Expresses (Text.quotedList items) (depth + 1) := by
  cases items with
  | nil => exact ⟨_, _, by simp [Lexeme.chars, Text.quotedList, Text.join], phrase_emptyDisplay⟩
  | cons first items =>
    let lexeme : String → List Lexeme := fun item => [.literal (Text.quoted item)]
    have phrases : ∀ item ∈ lexeme first :: items.map lexeme, Phrase item depth .other := by
      intro item member
      rw [← List.map_cons] at member
      obtain ⟨text, -, rfl⟩ := List.mem_map.mp member
      exact phrase_literal (legal_quoted text)
    refine ⟨_, _, ?_, phrase_display phrases⟩
    have same : (lexeme first :: items.map lexeme).map spelled
        = ((first :: items).map Text.quoted).map String.toList := by
      simp [lexeme, Lexeme.chars]
    rw [spelled_cons, spelled_append, spelled_listed same, Text.quotedList]
    simp [Lexeme.chars]

end GraphqlRequests.Source
