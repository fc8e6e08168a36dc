import GraphqlRequests.Source.Number
import GraphqlRequests.Text.Table.Names

/-!
# String literals of the generated language

A literal is a prefix, a quote and a body. `Literal.body?` finds the end of the body,
`Literal.escapesHold` says whether its backslashes can be read, and `Literal.embedded?` gives the
pieces of code in the braces of a formatted literal.
-/

namespace GraphqlRequests.Source.Literal

open Text

structure Form where
  raw : Bool
  isBytes : Bool
  formatted : Bool
  deriving DecidableEq

def Form.ofLetters? (letters : List Char) : Option Form :=
  match (String.ofList letters).toLower with
  | "" | "u" => some ⟨false, false, false⟩
  | "r" => some ⟨true, false, false⟩
  | "b" => some ⟨false, true, false⟩
  | "br" | "rb" => some ⟨true, true, false⟩
  | "f" => some ⟨false, false, true⟩
  | "fr" | "rf" => some ⟨true, false, true⟩
  | _ => none

/-- The body of a literal and what follows its closing quote; one that is not `long` ends in its
line. `closing` counts the quotes just seen, and `body` is reversed. -/
def bodyTo (quote : Char) (long : Bool) (closing : Nat) (body : List Char) :
    List Char → Option (List Char × List Char)
  | [] => none
  | '\\' :: c :: rest => bodyTo quote long 0 (c :: '\\' :: body) rest
  | c :: rest =>
    if c = quote then
      if !long then some (body.reverse, rest)
      else if closing = 2 then some ((body.drop 2).reverse, rest)
      else bodyTo quote long (closing + 1) (c :: body) rest
    else if c = '\n' && !long then none
    else bodyTo quote long 0 (c :: body) rest

def body? : List Char → Option (List Char × List Char)
  | a :: b :: c :: rest =>
    if a = b then if b = c then bodyTo a true 0 [] rest else some ([], c :: rest)
    else bodyTo a false 0 [] (b :: c :: rest)
  | [a, b] => if a = b then some ([], []) else none
  | _ => none

def hasDigits (count : Nat) (chars : List Char) : Bool :=
  (chars.take count).length = count && (chars.take count).all Number.isHexDigit

def hexValue (chars : List Char) : Nat :=
  chars.foldl (fun n c => 16 * n + (if c.isDigit then c.toNat - 48 else c.toLower.toNat - 87)) 0

def namesCharacter : List Char → Bool
  | '{' :: rest =>
    let name := rest.takeWhile (· ≠ '}')
    name.length < rest.length && isCharacterName name
  | _ => false

/-- Can the backslashes of a body be read? Those that are followed by no known letter stand for
themselves. -/
def escapesHold (isBytes : Bool) : List Char → Bool
  | '\\' :: c :: rest =>
    (if c = 'x' then hasDigits 2 rest
      else if isBytes then true
      else if c = 'u' then hasDigits 4 rest
      else if c = 'U' then hasDigits 8 rest && hexValue (rest.take 8) ≤ 0x10FFFF
      else if c = 'N' then namesCharacter rest
      else true) && escapesHold isBytes rest
  | _ :: rest => escapesHold isBytes rest
  | [] => true

/-- Where the literal text of a formatted body stands: among its characters, or in the braces that
name a character. -/
inductive Plain where
  | among
  | naming

/-- Literal text of a formatted body up to a single brace, or to the end. Outside format
specifications a brace written twice stands for itself, and a closing brace cannot stand alone. -/
def plainText (raw top : Bool) : Plain → List Char → List Char → Option (List Char × List Char)
  | _, text, [] => some (text.reverse, [])
  | .naming, text, c :: rest =>
    plainText raw top (if c = '}' then .among else .naming) (c :: text) rest
  | .among, text, '\\' :: c :: rest =>
    if raw || c = '{' || c = '}' then plainText raw top .among ('\\' :: text) (c :: rest)
    else
      let place := if c = 'N' && rest.head? = some '{' then .naming else .among
      plainText raw top place (c :: '\\' :: text) rest
  | .among, text, '{' :: rest =>
    match top, rest with
    | true, '{' :: rest => plainText raw top .among ('{' :: text) rest
    | _, rest => some (text.reverse, '{' :: rest)
  | .among, text, '}' :: rest =>
    match top, rest with
    | true, '}' :: rest => plainText raw top .among ('}' :: text) rest
    | true, _ => none
    | false, rest => some (text.reverse, '}' :: rest)
  | .among, text, c :: rest => plainText raw top .among (c :: text) rest

def opener? : Char → Option Char
  | ')' => some '('
  | ']' => some '['
  | '}' => some '{'
  | _ => none

def mostBrackets : Nat := 200

/-- The literal within a piece of code that a character stands in: none, one with a quote on each
side, one with three of them of which some are left to open it, or one with three of which so many
have just been seen. -/
inductive Within where
  | none
  | short (quote : Char)
  | opening (quote : Char) (left : Nat)
  | long (quote : Char) (seen : Nat)

def Within.next (c : Char) : Within → Within
  | .none => .none
  | .short quote => if c = quote then .none else .short quote
  | .opening quote left => if left ≤ 1 then .long quote 0 else .opening quote (left - 1)
  | .long quote seen =>
    if c = quote then if seen = 2 then .none else .long quote (seen + 1) else .long quote 0

def Within.open (quote : Char) (rest : List Char) : Within :=
  if rest.take 2 = [quote, quote] then .opening quote 2 else .short quote

def endsCode (c : Char) (rest : List Char) : Bool :=
  c = ':' || c = '}' || ((c = '!' || c = '=') && rest.head? ≠ some '=')

/-- The code after an opening brace, up to the closing brace, `!`, `:` or `=` that ends it; it holds
neither backslashes nor comments. `compared` says that the character before starts a comparison. -/
def code (text : List Char) (compared : Bool) :
    Within → List Char → List Char → Option (List Char × List Char)
  | _, _, [] => none
  | .none, brackets, c :: rest =>
    if c = '\\' || c = '#' then none
    else if c = '"' || c = '\'' then code (c :: text) false (.open c rest) brackets rest
    else if c = '(' || c = '[' || c = '{' then
      if brackets.length < mostBrackets then code (c :: text) false .none (c :: brackets) rest
      else none
    else if brackets = [] && !(compared && c = '=') && endsCode c rest then
      some (text.reverse, c :: rest)
    else if brackets = [] && !compared && ['!', '=', '<', '>'].contains c then
      code (c :: text) (rest.head? = some '=') .none brackets rest
    else match opener? c with
      | some b =>
        if brackets.head? = some b then code (c :: text) false .none brackets.tail rest else none
      | none => code (c :: text) false .none brackets rest
  | within, brackets, c :: rest =>
    if c = '\\' then none else code (c :: text) false (within.next c) brackets rest

def isBlank (c : Char) : Bool :=
  c = ' ' || c = '\t' || c = '\n' || c = '\x0c'

def conversion? (rest : List Char) : Option (List Char) :=
  let rest := match rest with
    | '=' :: rest => rest.dropWhile fun c => isBlank c || c = '\x0b'
    | rest => rest
  match rest with
  | '!' :: c :: rest => if c = 's' || c = 'r' || c = 'a' then some rest else none
  | ['!'] => none
  | rest => some rest

/-- The pieces of code in a formatted body, and what follows them. Format specifications may hold
code once more, but no deeper. -/
def pieces (raw : Bool) : Nat → Nat → List Char → Option (List (List Char) × List Char)
  | 0, _, _ => none
  | n + 1, level, chars => do
    let (text, rest) ← plainText raw (level = 0) .among [] chars
    if !raw && !escapesHold false text then none
    else match rest with
      | '{' :: rest =>
        if 2 ≤ level then none
        let (piece, rest) ← code [] false .none [] rest
        if piece.all isBlank then none
        let rest ← conversion? rest
        let (inner, rest) ← match rest with
          | ':' :: rest => pieces raw n (level + 1) rest
          | rest => some ([], rest)
        match rest with
        | '}' :: rest => do
          let (others, rest) ← pieces raw n level rest
          some (piece :: inner ++ others, rest)
        | _ => none
      | rest => some ([], rest)

def embedded? (form : Form) (body : List Char) : Option (List (List Char)) :=
  if form.formatted then
    match pieces form.raw (body.length + 1) 0 body with
    | some (pieces, []) => some pieces
    | _ => none
  else if form.isBytes && body.any fun c => 128 ≤ c.toNat then none
  else if form.raw || escapesHold form.isBytes body then some []
  else none

end GraphqlRequests.Source.Literal
