/-!
# Lines and lists of texts

A text is split at every occurrence of one character, and pieces are joined with a text between
them. Line breaks come in three forms, and are worked on in one. Texts are sorted by the code points
of their characters, each once.
-/

namespace GraphqlRequests.Text

/-! ### Splitting and joining -/

/-- The pieces between the occurrences of a character; there is always at least one. -/
def splitChars (sep : Char) : List Char → List (List Char)
  | [] => [[]]
  | c :: rest =>
    if c = sep then [] :: splitChars sep rest
    else match splitChars sep rest with
      | piece :: others => (c :: piece) :: others
      | [] => [[c]]

def lines (s : String) : List String :=
  (splitChars '\n' s.toList).map String.ofList

def join (sep : String) : List String → String
  | [] => ""
  | [piece] => piece
  | piece :: others => piece ++ sep ++ join sep others

def unlines (lines : List String) : String :=
  join "\n" lines

theorem splitChars_ne_nil (sep : Char) (s : List Char) : splitChars sep s ≠ [] := by
  cases s with
  | nil => simp [splitChars]
  | cons c rest =>
    simp only [splitChars]
    split
    · simp
    · split <;> simp

theorem intercalate_splitChars (sep : Char) (s : List Char) :
    [sep].intercalate (splitChars sep s) = s := by
  induction s with
  | nil => rfl
  | cons c rest ih =>
    simp only [splitChars]
    split
    · next h =>
      obtain ⟨p, ps, hp⟩ := List.exists_cons_of_ne_nil (splitChars_ne_nil sep rest)
      rw [hp] at ih ⊢
      subst h
      simpa [List.intercalate, List.intersperse] using ih
    · split
      · next p ps hp =>
        rw [hp] at ih
        cases ps <;> simp_all [List.intercalate, List.intersperse]
      · next hp => exact absurd hp (splitChars_ne_nil sep rest)

/-! ### Line breaks -/

def normalizeBreaks : List Char → List Char
  | '\r' :: '\n' :: rest => '\n' :: normalizeBreaks rest
  | '\r' :: rest => '\n' :: normalizeBreaks rest
  | c :: rest => c :: normalizeBreaks rest
  | [] => []

/-! ### Sorting -/

/-- Put a text in its place; one that is there already is not repeated. -/
def insertSorted (s : String) : List String → List String
  | [] => [s]
  | t :: rest =>
    if s < t then s :: t :: rest else if s = t then t :: rest else t :: insertSorted s rest

def sorted (texts : List String) : List String :=
  texts.foldr insertSorted []

theorem mem_insertSorted (s t : String) (texts : List String) :
    t ∈ insertSorted s texts ↔ t = s ∨ t ∈ texts := by
  induction texts with
  | nil => simp [insertSorted]
  | cons u rest ih =>
    simp only [insertSorted]
    split
    · simp
    · split
      · next h => subst h; simp
      · simp only [List.mem_cons, ih]
        grind

theorem mem_sorted (t : String) (texts : List String) : t ∈ sorted texts ↔ t ∈ texts := by
  induction texts with
  | nil => simp [sorted]
  | cons s rest ih =>
    simp only [sorted] at ih
    simp [sorted, mem_insertSorted, ih]

end GraphqlRequests.Text
