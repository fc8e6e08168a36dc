import GraphqlRequests.Naming
import GraphqlRequests.Source.Literal
import GraphqlRequests.Text.Split

/-!
# Tokens of the generated language

`Source.tokens?` splits a source text into names, numbers, string literals and symbols, and marks
the ends of logical lines and the changes of indentation. Code that a formatted literal embeds
follows the literal as tokens of its own.
-/

namespace GraphqlRequests.Source

open Text

/-- The lexemes of a source text; keywords are names here. After `embedded` comes an expression
between parentheses. -/
inductive Token where
  | name (text : String)
  | number (imaginary : Bool)
  | text (isBytes : Bool)
  | embedded
  | symbol (text : String)
  | newline
  | indent
  | dedent
  deriving DecidableEq, Repr

/-- The blanks before a line, measured with tabs that go on to a multiple of eight and with tabs
that count as one. -/
structure Margin where
  width : Nat := 0
  count : Nat := 0
  deriving DecidableEq

/-- The lexer between two tokens: open brackets, margins of the open blocks, whether a logical line
is about to start, and the tokens so far, last first. -/
structure Lexer where
  brackets : List Char := []
  margins : List Margin := []
  atMargin : Bool := true
  tokens : List Token := []

def symbols : List String :=
  ["...", "**=", "//=", ">>=", "<<=", "**", "//", "<<", ">>", ":=", "<=", ">=", "==", "!=", "->",
    "+=", "-=", "*=", "/=", "%=", "@=", "&=", "|=", "^=", "+", "-", "*", "/", "%", "@", "&", "|",
    "^", "~", "<", ">", ",", ":", ".", ";", "="]

/-- May the character stand in a word? Whether a word with letters beyond the basic ones is a name
is asked of the whole word. -/
def inWord (c : Char) : Bool :=
  c.isAlphanum || c = '_' || 128 ≤ c.toNat

def isWordText : List Char → Bool
  | [] => false
  | c :: rest => startsName c && rest.all continuesName

namespace Lexer

def push (lexer : Lexer) (token : Token) : Lexer :=
  { lexer with tokens := token :: lexer.tokens }

def mostBlocks : Nat := 100

/-- The margin of a line and the line without it. A line that is joined to the next by a backslash
keeps its own margin, unless that is empty. -/
def measure (margin : Margin) (joined : Nat) : List Char → Option (Margin × List Char)
  | ' ' :: rest => measure ⟨margin.width + 1, margin.count + 1⟩ joined rest
  | '\t' :: rest => measure ⟨(margin.width / 8 + 1) * 8, margin.count + 1⟩ joined rest
  | '\x0c' :: rest => measure {} joined rest
  | '\\' :: '\n' :: rest =>
    if rest = [] then none else measure margin (if joined = 0 then margin.width else joined) rest
  | '\\' :: _ => none
  | rest => some (if joined = 0 then margin else ⟨joined, joined⟩, rest)

/-- Compare the margin of a logical line with those of the open blocks. Both measures have to
agree. -/
def indentTo (lexer : Lexer) (margin : Margin) : Option Lexer :=
  let top := lexer.margins.head?.getD {}
  if margin.width = top.width then
    if margin.count = top.count then some lexer else none
  else if top.width < margin.width then
    if margin.count ≤ top.count || mostBlocks ≤ lexer.margins.length + 1 then none
    else some { lexer with margins := margin :: lexer.margins, tokens := .indent :: lexer.tokens }
  else
    let closed := lexer.margins.takeWhile (margin.width < ·.width)
    let margins := lexer.margins.dropWhile (margin.width < ·.width)
    if margins.head?.getD {} = margin then
      some { lexer with margins, tokens := closed.map (fun _ => .dedent) ++ lexer.tokens }
    else none

def symbol? (chars : List Char) : Option (String × List Char) := do
  let text ← symbols.find? fun s => s.toList.isPrefixOf chars
  some (text, chars.drop text.length)

def bracket? (lexer : Lexer) (c : Char) : Option Lexer :=
  let token := Token.symbol (String.singleton c)
  match Literal.opener? c with
  | some b =>
    match lexer.brackets with
    | b' :: brackets => if b = b' then some ({ lexer with brackets }.push token) else none
    | [] => none
  | none =>
    if Literal.mostBrackets ≤ lexer.brackets.length then none
    else some ({ lexer with brackets := c :: lexer.brackets }.push token)

/-- The start of a line: its margin counts if a logical line starts and the line is not blank. -/
def startLine (lexer : Lexer) (chars : List Char) : Option (Lexer × List Char) := do
  let (margin, rest) ← measure {} 0 chars
  match rest with
  | '#' :: rest => some (lexer, (rest.dropWhile (· ≠ '\n')).drop 1)
  | '\n' :: rest => some (lexer, rest)
  | rest => do
    let lexer ← lexer.indentTo margin
    some ({ lexer with atMargin := false }, rest)

mutual

def run : Nat → Lexer → List Char → Option Lexer
  | 0, _, _ => none
  | _ + 1, lexer, [] => some lexer
  | n + 1, lexer, c :: rest =>
    if lexer.atMargin then
      match lexer.startLine (c :: rest) with
      | some (lexer, rest) => run n lexer rest
      | none => none
    else if c = ' ' || c = '\t' || c = '\x0c' then run n lexer rest
    else if c = '\n' then
      if lexer.brackets = [] then run n { lexer.push .newline with atMargin := true } rest
      else run n lexer rest
    else if c = '#' then run n lexer (rest.dropWhile (· ≠ '\n'))
    else if c = '\\' then
      if rest.head? = some '\n' && 2 ≤ rest.length then run n lexer (rest.drop 1) else none
    else if c = '"' || c = '\'' then literal n lexer ⟨false, false, false⟩ (c :: rest)
    else if "()[]\x7b\x7d".toList.contains c then do run n (← lexer.bracket? c) rest
    else if c.isDigit || (c = '.' && rest.head?.any Char.isDigit) then do
      let (imaginary, rest) ← Number.take? (c :: rest)
      run n (lexer.push (.number imaginary)) rest
    else if inWord c then
      let word := c :: rest.takeWhile inWord
      let rest := rest.dropWhile inWord
      match Literal.Form.ofLetters? word, rest with
      | some form, '"' :: _ | some form, '\'' :: _ => literal n lexer form rest
      | _, _ =>
        if isWordText word then run n (lexer.push (.name (String.ofList word))) rest else none
    else do
      let (text, rest) ← symbol? (c :: rest)
      run n (lexer.push (.symbol text)) rest

def literal : Nat → Lexer → Literal.Form → List Char → Option Lexer
  | 0, _, _, _ => none
  | n + 1, lexer, form, chars => do
    let (body, rest) ← Literal.body? chars
    let pieces ← Literal.embedded? form body
    let lexer ← embed n (lexer.push (.text form.isBytes)) pieces
    run n lexer rest

def embed : Nat → Lexer → List (List Char) → Option Lexer
  | 0, _, _ => none
  | _ + 1, lexer, [] => some lexer
  | n + 1, lexer, piece :: pieces => do
    let inner ← run n { atMargin := false } ('(' :: piece ++ [')'])
    if inner.brackets ≠ [] then none
    else embed n { lexer with tokens := inner.tokens ++ .embedded :: lexer.tokens } pieces

end

end Lexer

def endLastLine (chars : List Char) : List Char :=
  if chars.getLast? = some '\n' then chars else chars ++ ['\n']

def tokens? (text : String) : Option (List Token) := do
  let chars := endLastLine (normalizeBreaks text.toList)
  let lexer ← Lexer.run (4 * chars.length + 16) {} chars
  if lexer.brackets ≠ [] then none
  else some (lexer.tokens.reverse ++ lexer.margins.map fun _ => .dedent)

def isName (text : String) : Bool :=
  isWordText text.toList && text ∉ Naming.keywords

end GraphqlRequests.Source
