import GraphqlRequests.Json.Reader
import GraphqlRequests.Text.Split

/-!
# Tokens of the schema language

Names, numbers, strings and punctuation; blanks, commas and comments are skipped. The lexer is a
fold of one step over the characters. Strings are read to their values, block strings without the
indentation that their lines share.
-/

namespace GraphqlRequests.Sdl

inductive Token where
  | mark (text : String)
  | name (text : String)
  | int (text : String)
  | float (text : String)
  | text (value : String)
  | block (value : String)
  deriving DecidableEq, Repr

def startsName (c : Char) : Bool :=
  c.isAlpha || c = '_'

def continuesName (c : Char) : Bool :=
  c.isAlphanum || c = '_'

def isName : List Char → Bool
  | [] => false
  | c :: rest => startsName c && rest.all continuesName

theorem continuesName_of_startsName {c : Char} (starts : startsName c = true) :
    continuesName c = true := by
  simp only [startsName, continuesName, Char.isAlphanum, Bool.or_eq_true] at starts ⊢
  exact starts.imp_left .inl

theorem continuesName_of_isName {chars : List Char} (named : isName chars = true) :
    ∀ c ∈ chars, continuesName c = true := by
  cases chars with
  | nil => cases named
  | cons first rest =>
    simp only [isName, Bool.and_eq_true, List.all_eq_true] at named
    exact List.forall_mem_cons.mpr ⟨continuesName_of_startsName named.1, named.2⟩

/-! ### Block strings -/

def blockLines : List Char → List (List Char)
  | [] => [[]]
  | '\r' :: '\n' :: rest => [] :: blockLines rest
  | '\r' :: rest | '\n' :: rest => [] :: blockLines rest
  | c :: rest =>
    match blockLines rest with
    | line :: others => (c :: line) :: others
    | [] => [[c]]

def margin (line : List Char) : Nat :=
  (line.takeWhile fun c => c = ' ' || c = '\t').length

def isBlankLine (line : List Char) : Bool :=
  margin line = line.length

def commonMargin : List (List Char) → Option Nat
  | [] => none
  | line :: rest =>
    if isBlankLine line then commonMargin rest
    else match commonMargin rest with
      | some m => some (min (margin line) m)
      | none => some (margin line)

/-- All lines but the first without their common margin, and no blank lines at either end. -/
def dedent : List (List Char) → List (List Char)
  | [] => []
  | first :: rest =>
    let lines := first :: match commonMargin rest with
      | some m => rest.map (·.drop m)
      | none => rest
    (lines.dropWhile isBlankLine).reverse.dropWhile isBlankLine |>.reverse

def blockValue (chars : List Char) : String :=
  Text.unlines ((dedent (blockLines chars)).map String.ofList)

/-! ### The lexer -/

/-- What the lexer is in the middle of. Strings are kept as their characters, last first. -/
inductive Lexer.Mode where
  | idle
  | comment
  | name (chars : List Char)
  | number (chars : List Char)
  | dots (count : Nat)
  | opening (count : Nat)
  | text (chars : List Char)
  | escape (chars : List Char)
  | code (chars : List Char) (digits : List Nat)
  | wideCode (chars : List Char) (digits : List Nat)
  | low (chars : List Char) (high : Nat) (start : List Char)
  | lowCode (chars : List Char) (high : Nat) (digits : List Nat)
  | block (chars : List Char) (quotes : Nat) (slash : Bool)

structure Lexer where
  mode : Lexer.Mode := .idle
  tokens : List Token := []

namespace Lexer

/-- The number that a text writes: no leading zeros, digits on both sides of a point. -/
def number? (chars : List Char) : Option Token :=
  let parts := Json.numberParts chars
  if !parts.isNumber then none
  else if parts.isWhole then some (.int (String.ofList chars))
  else some (.float (String.ofList chars))

def isPunctuation (c : Char) : Bool :=
  c ∈ ['!', '$', '&', '(', ')', ':', '=', '@', '[', ']', '{', '|', '}']

def isIgnored (c : Char) : Bool :=
  c = ' ' || c = '\t' || c = '\n' || c = '\r' || c = ',' || c = '\uFEFF'

def idleStep (tokens : List Token) (c : Char) : Option Lexer :=
  if isIgnored c then some ⟨.idle, tokens⟩
  else if c = '#' then some ⟨.comment, tokens⟩
  else if c = '"' then some ⟨.opening 1, tokens⟩
  else if c = '.' then some ⟨.dots 1, tokens⟩
  else if startsName c then some ⟨.name [c], tokens⟩
  else if c.isDigit || c = '-' then some ⟨.number [c], tokens⟩
  else if isPunctuation c then some ⟨.idle, .mark (String.singleton c) :: tokens⟩
  else none

def escaped? : Char → Option Char
  | '"' => some '"'
  | '\\' => some '\\'
  | '/' => some '/'
  | 'b' => some '\x08'
  | 'f' => some '\x0c'
  | 'n' => some '\n'
  | 'r' => some '\r'
  | 't' => some '\t'
  | _ => none

def hexDigits (digits : List Nat) : Nat :=
  digits.foldr (fun d n => n * 16 + d) 0

/-- Does a number go on with the character? A sign goes on after an exponent mark. -/
def extendsNumber (chars : List Char) (c : Char) : Bool :=
  continuesName c || c = '.'
    || ((c = '+' || c = '-') && chars.head?.any fun e => e = 'e' || e = 'E')

/-- A finished escape by number. The high half of a surrogate pair waits for the low one. -/
def codeDone (tokens : List Token) (chars : List Char) (n : Nat) : Option Lexer :=
  if 0xD800 ≤ n ∧ n < 0xDC00 then some ⟨.low chars n [], tokens⟩
  else if n.isValidChar then some ⟨.text (Char.ofNat n :: chars), tokens⟩
  else none

def step (lexer : Lexer) (c : Char) : Option Lexer :=
  let tokens := lexer.tokens
  match lexer.mode with
  | .idle => idleStep tokens c
  | .comment => some ⟨if c = '\n' || c = '\r' then .idle else .comment, tokens⟩
  | .name chars =>
    if continuesName c then some ⟨.name (c :: chars), tokens⟩
    else idleStep (.name (String.ofList chars.reverse) :: tokens) c
  | .number chars =>
    if extendsNumber chars c then some ⟨.number (c :: chars), tokens⟩
    else do idleStep ((← number? chars.reverse) :: tokens) c
  | .dots count =>
    if c = '.' then
      if count = 2 then some ⟨.idle, .mark "..." :: tokens⟩ else some ⟨.dots (count + 1), tokens⟩
    else none
  | .opening count =>
    if c = '"' then
      if count = 2 then some ⟨.block [] 0 false, tokens⟩ else some ⟨.opening 2, tokens⟩
    else if count = 2 then idleStep (.text "" :: tokens) c
    else if c = '\\' then some ⟨.escape [], tokens⟩
    else if c = '\n' || c = '\r' then none
    else some ⟨.text [c], tokens⟩
  | .text chars =>
    if c = '"' then some ⟨.idle, .text (String.ofList chars.reverse) :: tokens⟩
    else if c = '\\' then some ⟨.escape chars, tokens⟩
    else if c = '\n' || c = '\r' then none
    else some ⟨.text (c :: chars), tokens⟩
  | .escape chars =>
    if c = 'u' then some ⟨.code chars [], tokens⟩
    else do some ⟨.text ((← escaped? c) :: chars), tokens⟩
  | .code chars digits =>
    if c = '{' && digits = [] then some ⟨.wideCode chars [], tokens⟩
    else do
      let digits := (← Json.hexValue? c) :: digits
      if digits.length < 4 then some ⟨.code chars digits, tokens⟩
      else codeDone tokens chars (hexDigits digits)
  | .wideCode chars digits =>
    if c = '}' then
      let n := hexDigits digits
      if digits ≠ [] ∧ n.isValidChar then some ⟨.text (Char.ofNat n :: chars), tokens⟩ else none
    else if 8 ≤ digits.length then none
    else do some ⟨.wideCode chars ((← Json.hexValue? c) :: digits), tokens⟩
  | .low chars high start =>
    match start, c with
    | [], '\\' => some ⟨.low chars high ['\\'], tokens⟩
    | _ :: _, 'u' => some ⟨.lowCode chars high [], tokens⟩
    | _, _ => none
  | .lowCode chars high digits => do
    let digits := (← Json.hexValue? c) :: digits
    if digits.length < 4 then some ⟨.lowCode chars high digits, tokens⟩
    else
      let n := hexDigits digits
      if 0xDC00 ≤ n ∧ n < 0xE000 then
        let joined := 0x10000 + (high - 0xD800) * 0x400 + (n - 0xDC00)
        some ⟨.text (Char.ofNat joined :: chars), tokens⟩
      else none
  | .block chars quotes slash =>
    if c = '"' then
      if quotes < 2 then some ⟨.block chars (quotes + 1) slash, tokens⟩
      else if slash then some ⟨.block ('"' :: '"' :: '"' :: chars.drop 1) 0 false, tokens⟩
      else some ⟨.idle, .block (blockValue chars.reverse) :: tokens⟩
    else some ⟨.block (c :: (List.replicate quotes '"' ++ chars)) 0 (c = '\\'), tokens⟩

def finish (lexer : Lexer) : Option (List Token) :=
  match lexer.mode with
  | .idle | .comment => some lexer.tokens.reverse
  | .name chars => some (.name (String.ofList chars.reverse) :: lexer.tokens).reverse
  | .number chars => do some ((← number? chars.reverse) :: lexer.tokens).reverse
  | .opening 2 => some (.text "" :: lexer.tokens).reverse
  | _ => none

end Lexer

def tokens? (text : String) : Option (List Token) := do
  let lexer ← text.toList.foldlM Lexer.step {}
  lexer.finish

end GraphqlRequests.Sdl
