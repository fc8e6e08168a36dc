import GraphqlRequests.Proofs.Source.Lexing
import GraphqlRequests.RequestModule.Layout

/-!
# The names that an expression looks up

An expression of names, dots and brackets looks up its words, but for those that follow a dot: these
are looked up in what stands before the dot. A bracket or a comma ends a name, and the next word is
looked up again.
-/

namespace GraphqlRequests.Source

/-- A word, unless it is empty or follows a dot. -/
def freeWord (word : List Char) (free : Bool) : List (List Char) :=
  if free && !word.isEmpty then [word] else []

def freeWords (word : List Char) (free : Bool) : List Char → List (List Char)
  | [] => freeWord word free
  | c :: rest =>
    if inWord c then freeWords (word ++ [c]) free rest
    else freeWord word free ++ freeWords [] (c ≠ '.') rest

/-- The names that an expression looks up. -/
def freeNames (text : String) : List String :=
  (freeWords [] true text.toList).map String.ofList

variable {word chars : List Char} {free : Bool} {text front name inner : String}

theorem freeWords_append {c : Char} (outside : inWord c = false) (rest : List Char) :
    freeWords word free (chars ++ c :: rest)
      = freeWords word free chars ++ freeWords [] (c ≠ '.') rest := by
  induction chars generalizing word free with
  | nil => simp [freeWords, outside]
  | cons d others ih =>
    rw [List.cons_append, freeWords, freeWords]
    split
    · exact ih
    · rw [ih, List.append_assoc]

theorem freeWords_of_words (words : ∀ c ∈ chars, inWord c = true) :
    freeWords word free chars = freeWord (word ++ chars) free := by
  induction chars generalizing word with
  | nil => rw [freeWords, List.append_nil]
  | cons c rest ih =>
    obtain ⟨here, later⟩ := List.forall_mem_cons.mp words
    rw [freeWords, if_pos here, ih later, List.append_assoc, List.singleton_append]

theorem freeNames_word (isWord : isWordText text.toList = true) : freeNames text = [text] := by
  have some : text.toList ≠ [] := by
    rintro empty
    rw [empty] at isWord
    cases isWord
  rw [freeNames, freeWords_of_words (inWord_of_isWordText isWord)]
  simp [freeWord, some]

theorem freeNames_field (isWord : isWordText name.toList = true) :
    freeNames (front ++ "." ++ name) = freeNames front := by
  have joined : (front ++ "." ++ name).toList = front.toList ++ '.' :: name.toList := by simp
  rw [freeNames, joined, freeWords_append (by decide),
    freeWords_of_words (inWord_of_isWordText isWord)]
  simp [freeWord, freeNames]

theorem freeNames_subscript :
    freeNames (front ++ "[" ++ inner ++ "]") = freeNames front ++ freeNames inner := by
  have joined : (front ++ "[" ++ inner ++ "]").toList
      = front.toList ++ '[' :: (inner.toList ++ [']']) := by simp
  rw [freeNames, joined, freeWords_append (by decide), freeWords_append (by decide)]
  simp [freeWords, freeWord, freeNames]

/-- Beside what it holds, an annotation looks up the alias of the types that it is made with. -/
theorem mem_freeNames_written (other : name ≠ "_typing") (ref : CodeRef String) :
    name ∈ freeNames ref.written ↔ name ∈ freeNames ref.innermost := by
  have layer : ∀ kind ∈ ["List", "Optional"], ∀ inner,
      name ∈ freeNames ("_typing." ++ kind ++ "[" ++ inner ++ "]") ↔ name ∈ freeNames inner := by
    intro kind listed inner
    have words : ∀ kind ∈ ["List", "Optional"], freeNames ("_typing." ++ kind) = ["_typing"] := by
      decide
    rw [freeNames_subscript, words kind listed]
    simp [other]
  induction ref with
  | named text => rfl
  | list item ih => exact (layer "List" (by decide) _).trans ih
  | optional inner ih => exact (layer "Optional" (by decide) _).trans ih

end GraphqlRequests.Source
