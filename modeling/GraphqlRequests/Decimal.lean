/-!
# Numbers

The parts of a number literal, and the decimal text of binary numbers. A literal is read as the
nearest number with a 53-bit significand, and written with the fewest digits that read back as that
number. All arithmetic is exact, on `Nat`.
-/

namespace GraphqlRequests

namespace Json

/-! ### Number literals -/

def digitsValue (digits : List Char) : Nat :=
  digits.foldl (fun n c => n * 10 + (c.toNat - 48)) 0

def wholePart : List Char → List Char × List Char
  | '0' :: rest => (['0'], rest)
  | cs => (cs.takeWhile Char.isDigit, cs.dropWhile Char.isDigit)

def fraction? : List Char → Option (List Char) × List Char
  | '.' :: rest =>
    let digits := rest.takeWhile Char.isDigit
    if digits = [] then (none, '.' :: rest) else (some digits, rest.dropWhile Char.isDigit)
  | cs => (none, cs)

def exponent? (cs : List Char) : Option Int × List Char :=
  match cs with
  | e :: rest =>
    let (sign, rest) : Int × List Char :=
      match rest with
      | '-' :: r => (-1, r)
      | '+' :: r => (1, r)
      | r => (1, r)
    let digits := rest.takeWhile Char.isDigit
    if (e = 'e' ∨ e = 'E') ∧ digits ≠ [] then
      (some (sign * digitsValue digits), rest.dropWhile Char.isDigit)
    else (none, cs)
  | [] => (none, [])

structure NumberParts where
  negative : Bool
  whole : List Char
  fraction : Option (List Char)
  exponent : Option Int
  rest : List Char

def numberParts (cs : List Char) : NumberParts :=
  let (negative, rest) :=
    match cs with
    | '-' :: r => (true, r)
    | r => (false, r)
  let (whole, rest) := wholePart rest
  let (fraction, rest) := fraction? rest
  let (exponent, rest) := exponent? rest
  ⟨negative, whole, fraction, exponent, rest⟩

namespace NumberParts

def isNumber (parts : NumberParts) : Bool :=
  parts.whole ≠ [] && parts.rest = []

def isWhole (parts : NumberParts) : Bool :=
  parts.fraction.isNone && parts.exponent.isNone

/-- All digits as one number, and the power of ten that they stand at. -/
def decimal (parts : NumberParts) : Nat × Int :=
  let fraction := parts.fraction.getD []
  (digitsValue (parts.whole ++ fraction), parts.exponent.getD 0 - fraction.length)

end NumberParts

end Json

namespace Decimal

/-! ### Binary numbers -/

inductive Binary where
  | finite (significand : Nat) (exponent : Int)
  | infinite
  deriving DecidableEq, Repr

/-- The whole number that it is, if it is one. -/
def Binary.whole? : Binary → Option Nat
  | .infinite => none
  | .finite significand exponent =>
    if 0 ≤ exponent then some (significand * Nat.pow 2 exponent.toNat)
    else
      let unit := Nat.pow 2 (-exponent).toNat
      if significand % unit = 0 then some (significand / unit) else none

def roundDiv (num den : Nat) : Nat :=
  let q := num / den
  let r := num % den
  if 2 * r < den then q else if den < 2 * r then q + 1 else q + q % 2

def scale (num den : Nat) (q : Int) : Nat × Nat :=
  if 0 ≤ q then (num, den * Nat.pow 2 q.toNat) else (num * Nat.pow 2 (-q).toNat, den)

def nearest (num den : Nat) : Binary :=
  let guess : Int := (Nat.log2 num : Int) - Nat.log2 den - 52
  let (n, d) := scale num den guess
  let q := max (-1074) (if n / d < Nat.pow 2 52 then guess - 1 else guess)
  let (n, d) := scale num den q
  let m := roundDiv n d
  let (m, q) := if m = Nat.pow 2 53 then (Nat.pow 2 52, q + 1) else (m, q)
  if 971 < q then .infinite else .finite m q

/-- The 53-bit number nearest to `digits * 10 ^ exponent`; far powers are cut off first. -/
def ofDecimal (digits : Nat) (exponent : Int) : Binary :=
  let size := (toString digits).length + exponent
  if digits = 0 || size < -330 then .finite 0 (-1074)
  else if 320 < size then .infinite
  else if 0 ≤ exponent then nearest (digits * Nat.pow 10 exponent.toNat) 1
  else nearest digits (Nat.pow 10 (-exponent).toNat)

/-- Which of `low * 10 ^ k` and `(low + 1) * 10 ^ k` is nearer to the number `digits * 10 ^ e`?
Midway between them it is the even one. Needs `e ≤ k`. -/
def nearerOf (digits : Nat) (e k : Int) (low : Nat) : Nat :=
  let unit := Nat.pow 10 (k - e).toNat
  let off (x : Nat) : Nat := (x * unit - digits) + (digits - x * unit)
  if off low < off (low + 1) then low
  else if off (low + 1) < off low then low + 1
  else low + low % 2

def expand (significand : Nat) (exponent : Int) : Nat × Int :=
  if 0 ≤ exponent then (significand * Nat.pow 2 exponent.toNat, 0)
  else (significand * Nat.pow 5 (-exponent).toNat, exponent)

/-- The fewest digits, of at most `count` more than `tried`, that read back as `target`, taken
from the two neighbours of the exact expansion `digits * 10 ^ e` on each decimal grid. -/
def shortestFrom (target : Binary) (digits : Nat) (e : Int) (tried : Nat) : Nat → Nat × Int
  | 0 => (digits, e)
  | count + 1 =>
    let width := (toString digits).length
    if width ≤ tried + 1 then (digits, e)
    else
      let drop := width - (tried + 1)
      let k := e + drop
      let low := digits / Nat.pow 10 drop
      let fits (x : Nat) : Bool := ofDecimal x k = target
      match fits low, fits (low + 1) with
      | true, true => (nearerOf digits e k low, k)
      | true, false => (low, k)
      | false, true => (low + 1, k)
      | false, false => shortestFrom target digits e (tried + 1) count

def shortest (significand : Nat) (exponent : Int) : Nat × Int :=
  let (digits, e) := expand significand exponent
  shortestFrom (.finite significand exponent) digits e 0 17

/-- Digits and power of ten as text: positional while the leading digit stands between
`10 ^ (-4)` and `10 ^ 15`, else with an exponent of at least two digits. -/
def layout (digits : Nat) (e : Int) : String :=
  let text := (toString digits).toList.reverse.dropWhile (· = '0') |>.reverse
  let point : Int := (toString digits).length + e
  if -4 < point ∧ point ≤ 16 then
    if point ≤ 0 then
      "0." ++ String.ofList (List.replicate (-point).toNat '0' ++ text)
    else
      let whole := text.take point.toNat
      let whole := whole ++ List.replicate (point.toNat - whole.length) '0'
      let part := text.drop point.toNat
      String.ofList (whole ++ '.' :: (if part.isEmpty then ['0'] else part))
  else
    let power := point - 1
    let size := toString power.natAbs
    let size := if size.length < 2 then "0" ++ size else size
    let tail := text.drop 1
    String.ofList (text.take 1 ++ (if tail.isEmpty then [] else '.' :: tail))
      ++ "e" ++ (if power < 0 then "-" else "+") ++ size

def text (negative : Bool) (digits : Nat) (exponent : Int) : String :=
  let body :=
    match ofDecimal digits exponent with
    | .infinite => "Infinity"
    | .finite 0 _ => "0.0"
    | .finite m q =>
      let (ds, e) := shortest m q
      layout ds e
  (if negative then "-" else "") ++ body

end Decimal

end GraphqlRequests
