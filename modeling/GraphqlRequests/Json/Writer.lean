import GraphqlRequests.Json
import GraphqlRequests.Text.Quoted

/-!
# Writing JSON

`Json.pretty` lays a value out with two blanks per level, in ASCII: other characters are written
as escaped code units. `Json.compact` puts a value on one line. In messages, `Json.literal` writes a
value as a literal of the generated language, and `Json.display` shows a text as it is.
-/

namespace GraphqlRequests.Json

def escapedUnit (u : Nat) : List Char :=
  '\\' :: 'u' :: Text.hexDigits 4 u

/-- A character inside a written text; beyond `U+FFFF` it takes two code units. -/
def escapedChar (c : Char) : List Char :=
  match c with
  | '"' => ['\\', '"']
  | '\\' => ['\\', '\\']
  | '\n' => ['\\', 'n']
  | '\r' => ['\\', 'r']
  | '\t' => ['\\', 't']
  | '\x08' => ['\\', 'b']
  | '\x0c' => ['\\', 'f']
  | _ =>
    let n := c.toNat
    if 0x20 ≤ n ∧ n < 0x7F then [c]
    else if n < 0x10000 then escapedUnit n
    else
      escapedUnit (0xD800 + (n - 0x10000) / 0x400)
        ++ escapedUnit (0xDC00 + (n - 0x10000) % 0x400)

def quoted (s : String) : String :=
  String.ofList ('"' :: (s.toList.flatMap escapedChar ++ ['"']))

def quotedBroken (codePoints : List Nat) : String :=
  let written (n : Nat) : List Char :=
    if Text.isHalf n then escapedUnit n else escapedChar (Char.ofNat n)
  String.ofList ('"' :: (codePoints.flatMap written ++ ['"']))

def scalarText : Json → String
  | .null => "null"
  | .bool b => if b then "true" else "false"
  | .int i => toString i
  | .float t => t
  | .string s => quoted s
  | .broken codePoints => quotedBroken codePoints
  | .array _ => "[]"
  | .object _ => "\x7b\x7d"

def newline (level : Nat) : String :=
  "\n" ++ String.ofList (List.replicate (2 * level) ' ')

mutual

def prettyAt (level : Nat) : Json → String
  | .array (item :: items) =>
    "[" ++ newline (level + 1) ++ prettyAt (level + 1) item ++ prettyItems (level + 1) items
      ++ newline level ++ "]"
  | .object ((key, value) :: members) =>
    "\x7b" ++ newline (level + 1) ++ quoted key ++ ": " ++ prettyAt (level + 1) value
      ++ prettyMembers (level + 1) members ++ newline level ++ "\x7d"
  | value => scalarText value

def prettyItems (level : Nat) : List Json → String
  | [] => ""
  | item :: items => "," ++ newline level ++ prettyAt level item ++ prettyItems level items

def prettyMembers (level : Nat) : List (String × Json) → String
  | [] => ""
  | (key, value) :: members =>
    "," ++ newline level ++ quoted key ++ ": " ++ prettyAt level value
      ++ prettyMembers level members

end

/-- Two blanks per level; empty containers stay on their line. -/
def pretty (value : Json) : String :=
  prettyAt 0 value

mutual

def compact : Json → String
  | .array (item :: items) => "[" ++ compact item ++ compactItems items ++ "]"
  | .object ((key, value) :: members) =>
    "\x7b" ++ quoted key ++ ":" ++ compact value ++ compactMembers members ++ "\x7d"
  | value => scalarText value

def compactItems : List Json → String
  | [] => ""
  | item :: items => "," ++ compact item ++ compactItems items

def compactMembers : List (String × Json) → String
  | [] => ""
  | (key, value) :: members => "," ++ quoted key ++ ":" ++ compact value ++ compactMembers members

end

/-! ### Literals -/

/-- A broken text as a literal: halves of pairs are shown by their numbers. -/
def brokenLiteral (codePoints : List Nat) : String :=
  let quote := Text.enclosingQuote (mended codePoints).toList
  let shown (n : Nat) : List Char :=
    if Text.isHalf n then Text.numericEscape n else Text.quotedChar quote (Char.ofNat n)
  String.ofList (quote :: (codePoints.flatMap shown ++ [quote]))

def atomLiteral : Json → String
  | .null => "None"
  | .bool b => if b then "True" else "False"
  | .int i => toString i
  | .float "NaN" => "nan"
  | .float "Infinity" => "inf"
  | .float "-Infinity" => "-inf"
  | .float t => t
  | .string s => Text.quoted s
  | .broken codePoints => brokenLiteral codePoints
  | .array _ => "[]"
  | .object _ => "\x7b\x7d"

mutual

def literal : Json → String
  | .array (item :: items) => "[" ++ literal item ++ literalItems items ++ "]"
  | .object ((key, value) :: members) =>
    "\x7b" ++ Text.quoted key ++ ": " ++ literal value ++ literalMembers members ++ "\x7d"
  | value => atomLiteral value

def literalItems : List Json → String
  | [] => ""
  | item :: items => ", " ++ literal item ++ literalItems items

def literalMembers : List (String × Json) → String
  | [] => ""
  | (key, value) :: members =>
    ", " ++ Text.quoted key ++ ": " ++ literal value ++ literalMembers members

end

def display : Json → String
  | .string s => s
  | .broken codePoints => mended codePoints
  | value => literal value

end GraphqlRequests.Json
