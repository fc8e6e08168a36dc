import GraphqlRequests.Text.Table.Alphanumeric
import GraphqlRequests.Text.Table.Identifier
import GraphqlRequests.Text.Table.Printable

/-!
# Character classes and white space

Each class is decided directly on ASCII and by its table beyond. White space is trimmed and
collapsed, and `commentChars` makes a one-line comment of that: it turns each run of white space into
one blank and cuts the line at 120 characters.
-/

namespace GraphqlRequests.Text

def isAlphanumeric (c : Char) : Bool :=
  if c.toNat < 128 then c.isAlphanum else Table.alphanumeric.contains c

def isWord (c : Char) : Bool :=
  isAlphanumeric c || c = '_'

/-- A character with a digit value, superscripts included. -/
def isDigit (c : Char) : Bool :=
  if c.toNat < 128 then c.isDigit else Table.digit.contains c

/-- White space, line and paragraph separators, and the four information separators. -/
def isSpace (c : Char) : Bool :=
  let n := c.toNat
  (9 ≤ n && n ≤ 13) || (28 ≤ n && n ≤ 32) || n = 0x85 || n = 0xA0 || n = 0x1680
    || (0x2000 ≤ n && n ≤ 0x200A) || n = 0x2028 || n = 0x2029 || n = 0x202F || n = 0x205F
    || n = 0x3000

def isPrintable (c : Char) : Bool :=
  if c.toNat < 128 then 32 ≤ c.toNat && c.toNat < 127 else Table.printable.contains c

def isCapital (c : Char) : Bool :=
  'A' ≤ c && c ≤ 'Z'

def isSmall (c : Char) : Bool :=
  'a' ≤ c && c ≤ 'z'

def startsName (c : Char) : Bool :=
  if c.toNat < 128 then c.isAlpha || c = '_' else Table.nameStart.contains c

def continuesName (c : Char) : Bool :=
  if c.toNat < 128 then c.isAlphanum || c = '_' else Table.nameContinue.contains c

theorem isWord_of_ascii (c : Char) (h : c.toNat < 128) :
    isWord c = (c.isAlphanum || c = '_') := by
  simp [isWord, isAlphanumeric, h]

theorem isDigit_of_ascii (c : Char) (h : c.toNat < 128) : isDigit c = c.isDigit := by
  simp [isDigit, h]

/-! ### White space -/

def strip (s : List Char) : List Char :=
  (s.dropWhile isSpace).reverse.dropWhile isSpace |>.reverse

/-- Each run of white space as one blank, given whether one has just been written. -/
def collapseAfter (blank : Bool) : List Char → List Char
  | [] => []
  | c :: rest =>
    if isSpace c then
      if blank then collapseAfter true rest else ' ' :: collapseAfter true rest
    else c :: collapseAfter false rest

def collapse (s : List Char) : List Char :=
  collapseAfter false s

def commentLimit : Nat := 120

/-- A text flattened into one line of at most `commentLimit` characters; a longer one is cut and
ends in three dots. -/
def commentChars (s : List Char) : List Char :=
  let line := collapse s
  strip <|
    if commentLimit < line.length then line.take (commentLimit - 3) ++ ['.', '.', '.'] else line

def comment (s : String) : String :=
  String.ofList (commentChars s.toList)

theorem collapseAfter_of_space (b : Bool) (c : Char) (rest : List Char) (h : isSpace c) :
    collapseAfter b (c :: rest) =
      if b then collapseAfter true rest else ' ' :: collapseAfter true rest := by
  simp [collapseAfter, h]

theorem collapseAfter_of_not_space (b : Bool) (c : Char) (rest : List Char) (h : ¬ isSpace c) :
    collapseAfter b (c :: rest) = c :: collapseAfter false rest := by
  simp [collapseAfter, h]

end GraphqlRequests.Text
