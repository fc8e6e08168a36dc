import GraphqlRequests.Text.Case
import GraphqlRequests.Text.Split

/-!
# Names in the generated module

Words are told apart by capitals (`snakeCase`), joined with capitals (`pascalCase`), and made fit
to stand as identifiers (`identifier`). All work on lists of characters; the `String` forms are what
the rest of the library uses. `distinct` makes the names of one class differ from each other and from
the members it already has, by underscores after them.
-/

namespace GraphqlRequests.Naming

open Text

/-- Where the first pass over a name stands: between words, at the capital that starts a word, or
in the small letters after one. -/
inductive Place where
  | between
  | capital
  | tail
  deriving DecidableEq

/-- Does a new word start after `c`, with the capital that comes next and the small letter after
it? -/
def startsWord (c : Char) : List Char → Bool
  | b :: a :: _ => c ≠ '\n' && isCapital b && isSmall a
  | _ => false

/-- First pass: an underscore before each capital that a small letter follows. The characters of one
such word are passed over before the next is looked for. -/
def markWords : Place → List Char → List Char
  | _, [] => []
  | .capital, c :: rest => c :: markWords .tail rest
  | place, c :: rest =>
    if place = .tail ∧ isSmall c then c :: markWords .tail rest
    else if startsWord c rest then c :: '_' :: markWords .capital rest
    else c :: markWords .between rest

/-- Second pass: an underscore between a small letter or digit and a capital. -/
def markCapitals : List Char → List Char
  | a :: b :: rest =>
    if (isSmall a || ('0' ≤ a && a ≤ '9')) && isCapital b then
      a :: '_' :: markCapitals (b :: rest)
    else a :: markCapitals (b :: rest)
  | s => s

def snakeChars (s : List Char) : List Char :=
  lower (markCapitals (markWords .between s))

def capitalize : List Char → List Char
  | [] => []
  | c :: rest => upperOf c ++ rest

def pascalChars (s : List Char) : List Char :=
  (splitChars '_' (snakeChars s)).flatMap capitalize

def keywords : List String :=
  ["False", "None", "True", "and", "as", "assert", "async", "await", "break", "class", "continue",
    "def", "del", "elif", "else", "except", "finally", "for", "from", "global", "if", "import",
    "in", "is", "lambda", "nonlocal", "not", "or", "pass", "raise", "return", "try", "while",
    "with", "yield"]

def shadowed : List String := ["type", "self"]

def isReserved (s : List Char) : Bool :=
  (keywords ++ shadowed).any (·.toList = s)

/-- Fit to be an identifier: other characters become underscores, leading underscores move to the
end as one, an empty name becomes `field`, and a leading digit gets an `n` before it. A reserved
name gets an underscore after it. -/
def identifierChars (s : List Char) : List Char :=
  let words := s.map fun c => if isWord c then c else '_'
  let stripped := words.dropWhile (· = '_')
  let name := if stripped = [] then "field".toList else stripped
  let name := if name.head?.any isDigit then 'n' :: name else name
  if stripped ≠ words ∨ isReserved name then name ++ ['_'] else name

def snakeCase (name : String) : String :=
  String.ofList (snakeChars name.toList)

def pascalCase (name : String) : String :=
  String.ofList (pascalChars name.toList)

def identifier (name : String) : String :=
  String.ofList (identifierChars name.toList)

def attributeName (name : String) : String :=
  String.ofList (identifierChars (snakeChars name.toList))

def enumMemberName (value : String) : String :=
  String.ofList (identifierChars (upper (snakeChars value.toList)))

/-! ### Telling names apart -/

def underscored (name : String) (n : Nat) : String :=
  name ++ String.ofList (List.replicate n '_')

/-- The least number of underscores, of the `count` numbers from `n` on, that frees the name. -/
def freeFrom (taken : List String) (name : String) (n : Nat) : Nat → Nat
  | 0 => n
  | count + 1 =>
    if underscored name n ∈ taken then freeFrom taken name (n + 1) count else n

/-- The name with the least number of underscores after it that is not taken. Some number up to
`taken.length` is free, since the candidates all differ. -/
def free (taken : List String) (name : String) : String :=
  underscored name (freeFrom taken name 0 taken.length)

def distinct (reserved : List String) : List String → List String
  | [] => []
  | name :: rest =>
    let name := free reserved name
    name :: distinct (name :: reserved) rest

theorem length_distinct (reserved names : List String) :
    (distinct reserved names).length = names.length := by
  induction names generalizing reserved with
  | nil => rfl
  | cons name rest ih => simp [distinct, ih]

end GraphqlRequests.Naming
