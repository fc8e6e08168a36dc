import GraphqlRequests.Text.Class

/-!
# Number literals of the generated language

`Number.take?` takes a number from the front of a text. A number may be followed at once by a
keyword that can stand between two expressions, but not by any other word.
-/

namespace GraphqlRequests.Source.Number

open Text

/-- A number literal from the front of a text: whether it is imaginary, and the text after it. -/
abbrev Taken := Option (Bool × List Char)

/-- More digits, each perhaps with an underscore before it; `none` if an underscore has no digit
after it. -/
def moreDigits (isDigit : Char → Bool) : List Char → Option (List Char)
  | ['_'] => none
  | '_' :: c :: rest => if isDigit c then moreDigits isDigit rest else none
  | c :: rest => if isDigit c then moreDigits isDigit rest else some (c :: rest)
  | [] => some []

def digits (isDigit : Char → Bool) : List Char → Option (List Char)
  | c :: rest => if isDigit c then moreDigits isDigit rest else none
  | [] => none

def followers : List String :=
  ["and", "else", "for", "if", "in", "is", "or", "not"]

def endsBefore (rest : List Char) : Bool :=
  followers.any (fun word => word.toList.isPrefixOf rest)
    || !(rest.head?.any fun c => c.isAlphanum || c = '_' || 128 ≤ c.toNat)

def finish (imaginary : Bool) (rest : List Char) : Taken :=
  if endsBefore rest then some (imaginary, rest) else none

def suffix : List Char → Taken
  | 'j' :: rest | 'J' :: rest => finish true rest
  | rest => finish false rest

/-- The power of ten after a decimal number. A letter `e` without digits is not part of it. -/
def exponent (chars : List Char) : Taken :=
  match chars with
  | e :: rest =>
    if e = 'e' ∨ e = 'E' then
      match rest with
      | '+' :: rest | '-' :: rest => do suffix (← digits Char.isDigit rest)
      | rest =>
        if rest.head?.any Char.isDigit then do suffix (← digits Char.isDigit rest)
        else finish false chars
    else suffix chars
  | [] => suffix []

def fraction (rest : List Char) : Taken :=
  if rest.head?.any Char.isDigit then do exponent (← digits Char.isDigit rest) else exponent rest

def mostDigits : Nat := 4300

def goesOn (rest : List Char) : Bool :=
  rest.head?.any fun c => c = '.' || c = 'e' || c = 'E' || c = 'j' || c = 'J'

/-- A number in base ten. A whole number other than zero has no leading zero. -/
def decimal (chars : List Char) : Taken := do
  let rest ← digits Char.isDigit chars
  let whole := (chars.take (chars.length - rest.length)).filter Char.isDigit
  match rest with
  | '.' :: rest => fraction rest
  | rest =>
    if goesOn rest then exponent rest
    else if whole.head? = some '0' && whole.any (· ≠ '0') then none
    else if whole.head? ≠ some '0' && mostDigits < whole.length then none
    else finish false rest

def based (isDigit : Char → Bool) (chars : List Char) : Taken := do
  let rest ← digits isDigit (if chars.head? = some '_' then chars.drop 1 else chars)
  if rest.head?.any Char.isDigit then none else finish false rest

def isHexDigit (c : Char) : Bool :=
  c.isDigit || ('a' ≤ c && c ≤ 'f') || ('A' ≤ c && c ≤ 'F')

def take? : List Char → Taken
  | '0' :: 'x' :: rest | '0' :: 'X' :: rest => based isHexDigit rest
  | '0' :: 'o' :: rest | '0' :: 'O' :: rest => based (fun c => '0' ≤ c && c ≤ '7') rest
  | '0' :: 'b' :: rest | '0' :: 'B' :: rest => based (fun c => c = '0' || c = '1') rest
  | '.' :: rest => fraction rest
  | chars => decimal chars

end GraphqlRequests.Source.Number
