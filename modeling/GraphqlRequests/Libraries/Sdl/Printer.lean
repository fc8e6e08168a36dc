import GraphqlRequests.Sdl.Document
import GraphqlRequests.Sdl.Token

/-!
# Printed literals

The text of a literal: numbers as they were written, a blank after each comma and inside the braces
of an object, and block strings as block strings. A list or object that is too long for one line
stands in lines of its own.
-/

namespace GraphqlRequests.Sdl

def upperHexDigit (n : Nat) : Char :=
  if n < 10 then Char.ofNat (48 + n) else Char.ofNat (55 + n)

def printedChar (c : Char) : List Char :=
  match c with
  | '"' => ['\\', '"']
  | '\\' => ['\\', '\\']
  | '\n' => ['\\', 'n']
  | '\r' => ['\\', 'r']
  | '\t' => ['\\', 't']
  | '\x08' => ['\\', 'b']
  | '\x0c' => ['\\', 'f']
  | _ =>
    let n := c.toNat
    if n < 0x20 ∨ (0x7F ≤ n ∧ n < 0xA0) then
      ['\\', 'u', '0', '0', upperHexDigit (n / 16), upperHexDigit (n % 16)]
    else [c]

def printedString (s : String) : String :=
  String.ofList ('"' :: (s.toList.flatMap printedChar ++ ['"']))

def escapeBlock : List Char → List Char
  | '"' :: '"' :: '"' :: rest => '\\' :: '"' :: '"' :: '"' :: escapeBlock rest
  | c :: rest => c :: escapeBlock rest
  | [] => []

def isBlank (c : Char) : Bool :=
  c = ' ' || c = '\t'

/-- A block string. It stands in lines of its own if it has several lines or is long, or if its end
could be mistaken for the closing quotes. -/
def printedBlock (s : String) : String :=
  let value := s.toList
  let escaped := escapeBlock value
  let lines := blockLines escaped
  let single := lines.length = 1
  let forceLead := !single && (lines.drop 1).all fun line => line.isEmpty || line.head?.any isBlank
  let triples := ['\\', '"', '"', '"'].isSuffixOf escaped
  let forceTrail := (value.getLast? = some '"' && !triples) || value.getLast? = some '\\'
  let multiple := !single || 70 < value.length || forceTrail || forceLead || triples
  let skipLead := single && value.head?.any isBlank
  let lead := if (multiple && !skipLead) || forceLead then ['\n'] else []
  let trail := if multiple || forceTrail then ['\n'] else []
  let quotes := ['"', '"', '"']
  String.ofList (quotes ++ lead ++ escaped ++ trail ++ quotes)

def lineLimit : Nat := 80

def indented (text : String) : String :=
  String.ofList ("  ".toList ++ text.toList.flatMap fun c =>
    if c = '\n' then "\n  ".toList else [c])

/-- Parts between two marks: in one line, with a blank inside the marks perhaps, or each in lines of
its own. -/
def enclosed (opening close blank : String) (parts : List String) : String :=
  let line := opening ++ blank ++ ", ".intercalate parts ++ blank ++ close
  if line.length ≤ lineLimit then line
  else opening ++ "\n" ++ indented ("\n".intercalate parts) ++ "\n" ++ close

mutual

def Literal.text : Literal → String
  | .variable name => "$" ++ name
  | .int s | .float s => s
  | .string s false => printedString s
  | .string s true => printedBlock s
  | .boolean b => if b then "true" else "false"
  | .null => "null"
  | .enum name => name
  | .list items => enclosed "[" "]" "" (Literal.itemTexts items)
  | .object fields => enclosed "\x7b" "\x7d" " " (Literal.fieldTexts fields)

def Literal.itemTexts : List Literal → List String
  | [] => []
  | item :: items => item.text :: Literal.itemTexts items

def Literal.fieldTexts : List (String × Literal) → List String
  | [] => []
  | (key, value) :: fields => (key ++ ": " ++ value.text) :: Literal.fieldTexts fields

end

end GraphqlRequests.Sdl
