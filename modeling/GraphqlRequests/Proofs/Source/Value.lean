import GraphqlRequests.Proofs.Source.Docstring

/-!
# Values of literals

A literal stands for a text: `Literal.value?` reads the escapes of its body. What was escaped for a
docstring is read as it was, with a blank after a quote at its end, and the code that follows the
docstring is left as it is.
-/

namespace GraphqlRequests.Source

open Text (docstringChars escapeTriples normalizeBreaks
  normalizeBreaks_eq_self)

namespace Literal

/-! ### Reading literals -/

def plainEscape? : Char → Option Char
  | '\\' => some '\\'
  | '"' => some '"'
  | '\'' => some '\''
  | 'a' => some '\x07'
  | 'b' => some '\x08'
  | 'f' => some '\x0c'
  | 'n' => some '\n'
  | 'r' => some '\r'
  | 't' => some '\t'
  | 'v' => some '\x0b'
  | _ => none

/-- The character whose number the text starts with, in so many digits of base sixteen. Half of a
surrogate pair is none. -/
def numbered? (count : Nat) (chars : List Char) : Option Char :=
  let n := hexValue (chars.take count)
  if hasDigits count chars ∧ n.isValidChar then some (Char.ofNat n) else none

def isOctal (c : Char) : Bool :=
  '0' ≤ c && c ≤ '7'

def octalValue (digits : List Char) : Nat :=
  digits.foldl (fun n c => 8 * n + (c.toNat - 48)) 0

/-- What a backslash with `c` after it stands for, and how many characters after `c` belong to it.
No character is found by its name. -/
def escape? (c : Char) (rest : List Char) : Option (List Char × Nat) :=
  let octal := (c :: rest.take 2).takeWhile isOctal
  if c = '\n' then some ([], 0)
  else if c = 'x' then (numbered? 2 rest).map fun d => ([d], 2)
  else if c = 'u' then (numbered? 4 rest).map fun d => ([d], 4)
  else if c = 'U' then (numbered? 8 rest).map fun d => ([d], 8)
  else if c = 'N' then none
  else if octal ≠ [] then some ([Char.ofNat (octalValue octal)], octal.length - 1)
  else match plainEscape? c with
    | some d => some ([d], 0)
    | none => some (['\\', c], 0)

/-- The text that a body stands for, without so many characters in front that were read before. -/
def valueAfter : Nat → List Char → Option (List Char)
  | skipped + 1, _ :: rest => valueAfter skipped rest
  | 0, '\\' :: c :: rest =>
    (escape? c rest).bind fun (chars, more) => (valueAfter more rest).map (chars ++ ·)
  | 0, c :: rest => (valueAfter 0 rest).map (c :: ·)
  | _, [] => some []

def value? (body : List Char) : Option (List Char) :=
  valueAfter 0 body

/-- Read the literal that a source text starts with: its value and what follows it. Line breaks of
any form count as one, and a source text has no null character. -/
def read? (source : String) : Option (String × String) := do
  guard ('\x00' ∉ source.toList)
  let (body, rest) ← body? (normalizeBreaks source.toList)
  let value ← value? body
  return (String.ofList value, String.ofList rest)

end Literal

open Literal

/-! ### Values of docstrings -/

theorem value?_plain {c : Char} (slash : c ≠ '\\') (rest : List Char) :
    value? (c :: rest) = (value? rest).map (c :: ·) := by
  rw [value?, valueAfter, value?]
  exact fun _ _ same _ => slash same

theorem value?_escape {c d : Char} {rest : List Char} (stands : escape? c rest = some ([d], 0)) :
    value? ('\\' :: c :: rest) = (value? rest).map (d :: ·) := by
  rw [value?, valueAfter, stands, Option.bind_some]
  rfl

theorem escape?_quote (rest : List Char) : escape? '"' rest = some (['"'], 0) := by
  simp [escape?, isOctal, plainEscape?]

theorem escape?_slash (rest : List Char) : escape? '\\' rest = some (['\\'], 0) := by
  simp [escape?, isOctal, plainEscape?]

theorem value?_append_escapeTriples (text rest : List Char) :
    value? (escapeTriples text ++ rest) = (value? rest).map (text ++ ·) := by
  fun_induction escapeTriples text with
  | case1 text ih => simp [value?_escape (escape?_quote _), ih, Function.comp_def]
  | case2 text ih => simp [value?_escape (escape?_slash _), ih, Function.comp_def]
  | case3 c text _ slash ih =>
    rw [List.cons_append, value?_plain slash, ih, Option.map_map]
    rfl
  | case4 => simp

theorem getLast?_escapeTriples (text : List Char) :
    (escapeTriples text).getLast? = text.getLast? := by
  fun_induction escapeTriples text with
  | case1 text ih | case2 text ih | case3 c text _ _ ih => simp [List.getLast?_cons, ih]
  | case4 => rfl

theorem value?_docstringChars (text : List Char) : value? (docstringChars text)
    = some (text ++ if text.getLast? = some '"' then [' '] else []) := by
  have ends := getLast?_escapeTriples text
  simp only [docstringChars, ends]
  split
  · rw [value?_append_escapeTriples]
    rfl
  · have read := value?_append_escapeTriples text []
    rwa [List.append_nil] at read

theorem notMem_docstring {c : Char} {text rest : String} (other : c ∉ ['\\', '"', ' '])
    (plain : c ∉ (text ++ rest).toList) :
    c ∉ ("\"\"\"" ++ Text.docstring text ++ "\"\"\"" ++ rest).toList := by
  rw [String.toList_append, List.mem_append, not_or] at plain
  have body := notMem_docstringChars other plain.1
  simp_all [Text.docstring]

/-- A text behind three quotes, escaped, and closed by three quotes is one literal, whatever follows
it. Its value is the text, with a blank after it just where it ends in a quote. -/
theorem docstring_reads_back {text rest : String} (null : '\x00' ∉ (text ++ rest).toList)
    (carriage : '\r' ∉ (text ++ rest).toList) :
    Literal.read? ("\"\"\"" ++ Text.docstring text ++ "\"\"\"" ++ rest)
      = some (text ++ if text.toList.getLast? = some '"' then " " else "", rest) := by
  have chars : ("\"\"\"" ++ Text.docstring text ++ "\"\"\"" ++ rest).toList
      = '"' :: '"' :: '"' :: (docstringChars text.toList ++ '"' :: '"' :: '"' :: rest.toList) := by
    simp [Text.docstring]
  have noNull := notMem_docstring (by decide) null
  have noCarriage := notMem_docstring (by decide) carriage
  have body := body?_docstringChars text.toList rest.toList
  rw [← chars] at body
  have value : String.ofList (text.toList ++ if text.toList.getLast? = some '"' then [' '] else [])
      = text ++ if text.toList.getLast? = some '"' then " " else "" := by
    split <;> simp [String.ofList_append]
  rw [Literal.read?, normalizeBreaks_eq_self noCarriage, body, guard, if_pos noNull]
  simp [value?_docstringChars, value]

theorem docstring_reads_back_of_quotes :
    let text := "A \\ and \"\"\"\""
    let code := "\n\nclass Ship:"
    '\x00' ∉ (text ++ code).toList ∧ '\r' ∉ (text ++ code).toList ∧
      Literal.read? ("\"\"\"" ++ Text.docstring text ++ "\"\"\"" ++ code)
        = some (text ++ " ", code) :=
  ⟨by decide, by decide, docstring_reads_back (by decide) (by decide)⟩

end GraphqlRequests.Source
