import GraphqlRequests.Decimal
import GraphqlRequests.Json

/-!
# Reading JSON

Two machines in step: `Lexer.step` turns characters into tokens, `Builder.step` turns tokens into
one value, so the first mistake in the text is the one that is found. `NaN` and `Infinity` are
numbers. A `Dialect` says what else is accepted. What is read may also be given by its code points,
halves of surrogate pairs among them.
-/

namespace GraphqlRequests.Json

/-! ### Numbers -/

def hexValue? (c : Char) : Option Nat :=
  if '0' ≤ c ∧ c ≤ '9' then some (c.toNat - 48)
  else if 'a' ≤ c ∧ c ≤ 'f' then some (c.toNat - 87)
  else if 'A' ≤ c ∧ c ≤ 'F' then some (c.toNat - 55)
  else none

def NumberParts.value (parts : NumberParts) : Json :=
  let n : Int := digitsValue parts.whole
  let (digits, exponent) := parts.decimal
  if parts.isWhole then .int (if parts.negative then -n else n)
  else .float (Decimal.text parts.negative digits exponent)

/-! ### Dialects -/

/-- Why a text is no JSON value: it breaks the grammar or its dialect, it holds a number with too
many digits, or its containers nest too deep. -/
inductive ReadFailure where
  | malformed
  | longNumber
  | tooDeep
  deriving DecidableEq, Repr

abbrev Read := Except ReadFailure

/-- What a reader accepts beside the grammar: halves of surrogate pairs, numbers that are not too
long, and containers that do not nest too deep; what it says where they do. Members with one name
are all kept, or they make one member with the first place and the last value. -/
structure Dialect where
  acceptsHalves : Bool
  isTooLong : NumberParts → Bool
  mostNested : Nat
  whenTooDeep : ReadFailure
  keepsRepeated : Bool

namespace Dialect

def mostDigits : Nat := 4300

def lenient : Dialect where
  acceptsHalves := true
  isTooLong parts := parts.isWhole && mostDigits < parts.whole.length
  mostNested := 980
  whenTooDeep := .tooDeep
  keepsRepeated := false

/-- The dialect of files that are written by hand. A sign counts as a digit, and fractions are
limited like whole numbers. -/
def strict : Dialect where
  acceptsHalves := false
  isTooLong parts := mostDigits < parts.whole.length + if parts.negative then 1 else 0
  mostNested := 200
  whenTooDeep := .malformed
  keepsRepeated := true

end Dialect

def number (dialect : Dialect) (literal : List Char) : Read Json :=
  let parts := numberParts literal
  if dialect.isTooLong parts then .error .longNumber
  else if parts.isNumber then .ok parts.value
  else .error .malformed

def word (dialect : Dialect) (cs : List Char) : Read Json :=
  match String.ofList cs with
  | "null" => .ok .null
  | "true" => .ok (.bool true)
  | "false" => .ok (.bool false)
  | "NaN" => .ok (.float "NaN")
  | "Infinity" => .ok (.float "Infinity")
  | "-Infinity" => .ok (.float "-Infinity")
  | _ => number dialect cs

/-! ### Characters to tokens -/

inductive Token where
  | openArray
  | closeArray
  | openObject
  | closeObject
  | colon
  | comma
  | text (codePoints : List Nat)
  | bare (word : List Char)

/-- What the lexer is in the middle of. A text is kept as its code units, last first; only those that
are given by their numbers make pairs. -/
inductive Lexer where
  | idle
  | text (units : List Text.CodeUnit)
  | escape (units : List Text.CodeUnit)
  | code (units : List Text.CodeUnit) (digits : List Nat)
  | bare (word : List Char)

namespace Lexer

def isBlank (c : Char) : Bool :=
  c = ' ' || c = '\t' || c = '\n' || c = '\r'

def punctuation? : Char → Option Token
  | '[' => some .openArray
  | ']' => some .closeArray
  | '{' => some .openObject
  | '}' => some .closeObject
  | ':' => some .colon
  | ',' => some .comma
  | _ => none

def escaped? : Char → Option Nat
  | '"' => some 0x22
  | '\\' => some 0x5C
  | '/' => some 0x2F
  | 'b' => some 0x08
  | 'f' => some 0x0C
  | 'n' => some 0x0A
  | 'r' => some 0x0D
  | 't' => some 0x09
  | _ => none

def idleStep (tokens : List Token) (c : Char) : Lexer × List Token :=
  if isBlank c then (.idle, tokens)
  else if c = '"' then (.text [], tokens)
  else match punctuation? c with
    | some t => (.idle, tokens ++ [t])
    | none => (.bare [c], tokens)

def endsWord (c : Char) : Bool :=
  isBlank c || c = '"' || (punctuation? c).isSome

def step (lexer : Lexer) (c : Char) : Option (Lexer × List Token) :=
  match lexer with
  | .idle => some (idleStep [] c)
  | .bare cs =>
    if endsWord c then some (idleStep [.bare cs.reverse] c) else some (.bare (c :: cs), [])
  | .text units =>
    if c = '"' then some (.idle, [.text (Text.joinPairs units.reverse)])
    else if c = '\\' then some (.escape units, [])
    else if c.toNat < 0x20 then none
    else some (.text (.whole c.toNat :: units), [])
  | .escape units =>
    if c = 'u' then some (.code units [], [])
    else (escaped? c).map fun n => (.text (.whole n :: units), [])
  | .code units digits =>
    (hexValue? c).map fun d =>
      let digits := d :: digits
      if digits.length < 4 then (.code units digits, [])
      else (.text (.sixteen (digits.reverse.foldl (fun n d => n * 16 + d) 0) :: units), [])

/-- Read a code point. A half stands in a text for itself, and nowhere else for anything. -/
def stepPoint (lexer : Lexer) (n : Nat) : Option (Lexer × List Token) :=
  match lexer with
  | .text units =>
    if Text.isHalf n then some (.text (.whole n :: units), []) else lexer.step (Char.ofNat n)
  | lexer => lexer.step (mendedChar n)

def finish : Lexer → Option (List Token)
  | .idle => some []
  | .bare cs => some [.bare cs.reverse]
  | _ => none

end Lexer

/-! ### Tokens to a value -/

/-- An unfinished container: its items, or its members and the current key, last first. -/
inductive Frame where
  | array (items : List Json)
  | object (members : List (String × Json)) (key : String)

inductive Builder where
  | value (stack : List Frame)
  | firstItem (stack : List Frame)
  | firstKey (stack : List Frame)
  | nextKey (members : List (String × Json)) (stack : List Frame)
  | colon (members : List (String × Json)) (key : String) (stack : List Frame)
  | more (stack : List Frame)
  | done (value : Json)

namespace Builder

def deliver (value : Json) : List Frame → Builder
  | [] => .done value
  | .array items :: stack => .more (.array (value :: items) :: stack)
  | .object members key :: stack => .more (.object ((key, value) :: members) key :: stack)

def object (dialect : Dialect) (members : List (String × Json)) : Json :=
  if dialect.keepsRepeated then .object members.reverse
  else .object (distinctMembers members.reverse)

def accepted (dialect : Dialect) (codePoints : List Nat) : Read Json :=
  if !dialect.acceptsHalves && codePoints.any Text.isHalf then .error .malformed
  else .ok (ofCodePoints codePoints)

def acceptedKey (dialect : Dialect) (codePoints : List Nat) : Read String :=
  if !dialect.acceptsHalves && codePoints.any Text.isHalf then .error .malformed
  else .ok (mended codePoints)

def deeper {α : Type} (dialect : Dialect) (stack : List Frame) (inner : Read α) : Read α :=
  if stack.length < dialect.mostNested then inner else .error dialect.whenTooDeep

def start (dialect : Dialect) (stack : List Frame) : Token → Read Builder
  | .openArray => .ok (.firstItem stack)
  | .openObject => .ok (.firstKey stack)
  | .text codePoints => (accepted dialect codePoints).map (deliver · stack)
  | .bare cs => (word dialect cs).map (deliver · stack)
  | _ => .error .malformed

def step (dialect : Dialect) : Builder → Token → Read Builder
  | .value stack, t => start dialect stack t
  | .firstItem stack, .closeArray => .ok (deliver (.array []) stack)
  | .firstItem stack, t => deeper dialect stack (start dialect (.array [] :: stack) t)
  | .firstKey stack, .closeObject => .ok (deliver (.object []) stack)
  | .firstKey stack, .text key =>
    deeper dialect stack ((acceptedKey dialect key).map (.colon [] · stack))
  | .nextKey members stack, .text key => (acceptedKey dialect key).map (.colon members · stack)
  | .colon members key stack, .colon => .ok (.value (.object members key :: stack))
  | .more (.array items :: stack), .comma => .ok (.value (.array items :: stack))
  | .more (.array items :: stack), .closeArray => .ok (deliver (.array items.reverse) stack)
  | .more (.object members _ :: stack), .comma => .ok (.nextKey members stack)
  | .more (.object members _ :: stack), .closeObject => .ok (deliver (object dialect members) stack)
  | _, _ => .error .malformed

end Builder

/-! ### Reading -/

structure Reader where
  lexer : Lexer := .idle
  builder : Builder := .value []

namespace Reader

def take (dialect : Dialect) (reader : Reader) : Option (Lexer × List Token) → Read Reader
  | none => .error .malformed
  | some (lexer, tokens) => return ⟨lexer, ← tokens.foldlM (Builder.step dialect) reader.builder⟩

def step (dialect : Dialect) (reader : Reader) (c : Char) : Read Reader :=
  reader.take dialect (reader.lexer.step c)

def stepPoint (dialect : Dialect) (reader : Reader) (n : Nat) : Read Reader :=
  reader.take dialect (reader.lexer.stepPoint n)

def finish (dialect : Dialect) (reader : Reader) : Read Json :=
  match reader.lexer.finish with
  | none => .error .malformed
  | some tokens => do
    match ← tokens.foldlM (Builder.step dialect) reader.builder with
    | .done value => return value
    | _ => throw .malformed

end Reader

def read (dialect : Dialect) (text : String) : Read Json := do
  (← text.toList.foldlM (Reader.step dialect) {}).finish dialect

/-- Read a text that is given by its code points. -/
def readPoints (dialect : Dialect) (points : List Nat) : Read Json := do
  (← points.foldlM (Reader.stepPoint dialect) {}).finish dialect

end GraphqlRequests.Json
