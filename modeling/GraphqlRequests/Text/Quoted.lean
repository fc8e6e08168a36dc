import GraphqlRequests.Text.Class
import GraphqlRequests.Text.Split

/-!
# Quoted literals

A text as a string literal of the generated module. One on a line is enclosed in single quotes,
unless it holds a single quote and no double quote; a docstring is enclosed in three double quotes.
-/

namespace GraphqlRequests.Text

def hexDigit (n : Nat) : Char :=
  if n < 10 then Char.ofNat (48 + n) else Char.ofNat (87 + n)

def hexDigits (width n : Nat) : List Char :=
  (List.range width).reverse.map fun i => hexDigit (n / Nat.pow 16 i % 16)

def numericEscape (n : Nat) : List Char :=
  if n < 0x100 then '\\' :: 'x' :: hexDigits 2 n
  else if n < 0x10000 then '\\' :: 'u' :: hexDigits 4 n
  else '\\' :: 'U' :: hexDigits 8 n

/-- A character inside a literal enclosed in `quote`. -/
def quotedChar (quote c : Char) : List Char :=
  if c = quote then ['\\', c]
  else match c with
    | '\\' => ['\\', '\\']
    | '\n' => ['\\', 'n']
    | '\r' => ['\\', 'r']
    | '\t' => ['\\', 't']
    | _ => if isPrintable c then [c] else numericEscape c.toNat

def enclosingQuote (s : List Char) : Char :=
  if '\'' ∈ s ∧ '"' ∉ s then '"' else '\''

def quotedChars (s : List Char) : List Char :=
  let quote := enclosingQuote s
  quote :: (s.flatMap (quotedChar quote) ++ [quote])

def quoted (s : String) : String :=
  String.ofList (quotedChars s.toList)

def quotedList (items : List String) : String :=
  "[" ++ join ", " (items.map quoted) ++ "]"

/-! ### Docstrings -/

/-- Backslashes doubled, and three quotes in a row each behind a backslash. -/
def escapeTriples : List Char → List Char
  | '"' :: '"' :: '"' :: rest => '\\' :: '"' :: '\\' :: '"' :: '\\' :: '"' :: escapeTriples rest
  | '\\' :: rest => '\\' :: '\\' :: escapeTriples rest
  | c :: rest => c :: escapeTriples rest
  | [] => []

/-- A text as the body of a docstring; a quote at its end is kept from the closing ones. -/
def docstringChars (s : List Char) : List Char :=
  let body := escapeTriples s
  if body.getLast? = some '"' then body ++ [' '] else body

def docstring (s : String) : String :=
  String.ofList (docstringChars s.toList)

end GraphqlRequests.Text
