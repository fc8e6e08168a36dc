import GraphqlRequests.Text.Bytes
import GraphqlRequests.Text.Case
import GraphqlRequests.Text.Split
import GraphqlRequests.Text.Table.HostLabel

/-!
# Hosts

The host of an address is a number of four or of eight parts, or a name. A number has to be one; a
name is taken in small letters, and in ASCII. In other parts of an address a character that may not
stand there is written as its bytes, each as a percent sign and two hexadecimal digits.
-/

namespace GraphqlRequests.Endpoint

/-! ### Percent-encoding -/

def hexCapital (n : Nat) : Char :=
  if n < 10 then Char.ofNat (48 + n) else Char.ofNat (55 + n)

def isHex (c : Char) : Bool :=
  c.isDigit || ('a' ≤ c && c ≤ 'f') || ('A' ≤ c && c ≤ 'F')

def hexDigitValue (c : Char) : Nat :=
  if c.isDigit then c.toNat - 48 else (c.toNat - 55) % 32

def isVisible (c : Char) : Bool :=
  0x21 ≤ c.toNat && c.toNat < 0x7F

def isUnreserved (c : Char) : Bool :=
  c.isAlphanum || c ∈ ['-', '.', '_', '~']

def fitsFragment (c : Char) : Bool :=
  isVisible c && !(c.toNat ∈ [0x22, 0x3C, 0x3E, 0x60])

def fitsQuery (c : Char) : Bool :=
  isVisible c && !(c ∈ ['"', '#', '<', '>'])

def fitsPath (c : Char) : Bool :=
  fitsQuery c && !(c.toNat ∈ [0x3F, 0x60, 0x7B, 0x7D])

def fitsUser (c : Char) : Bool :=
  fitsPath c && !(c ∈ ['/', ';', '=', '@', '[', '\\', ']', '^', '|'])

def fitsHost (c : Char) : Bool :=
  c ∈ ['!', '$', '&', '\'', '(', ')', '*', '+', ',', ';', '=', '"', '{', '}', '%', '|', '\\']
    || c.toNat = 0x60

def percentEncoded (c : Char) : List Char :=
  (Text.utf8 [c]).flatMap fun b => ['%', hexCapital (b / 16), hexCapital (b % 16)]

def encode (fits : Char → Bool) : List Char → List Char
  | [] => []
  | '%' :: a :: b :: rest =>
    if isHex a && isHex b then '%' :: a :: b :: encode fits rest
    else (if fits '%' then ['%'] else percentEncoded '%') ++ encode fits (a :: b :: rest)
  | c :: rest => (if isUnreserved c || fits c then [c] else percentEncoded c) ++ encode fits rest

def decodedBytes : List Char → List Nat
  | [] => []
  | '%' :: a :: b :: rest =>
    if isHex a && isHex b then (hexDigitValue a * 16 + hexDigitValue b) :: decodedBytes rest
    else Text.utf8 ['%'] ++ decodedBytes (a :: b :: rest)
  | c :: rest => Text.utf8 [c] ++ decodedBytes rest

/-! ### Labels in ASCII

The ASCII characters of a label come first, then the others in the order of their numbers, each as
the distance from the one before. A distance is a number of base 36 that ends with its first small
digit; what counts as small adapts to the distances so far. -/

namespace Punycode

/-- A digit in base 36: letters, then decimal digits. -/
def digit (n : Nat) : Char :=
  if n < 26 then Char.ofNat (97 + n) else Char.ofNat (22 + n)

/-- Digits below this end a number; `place` counts the digits in steps of 36. -/
def threshold (place bias : Nat) : Nat :=
  if place ≤ bias then 1 else if bias + 26 ≤ place then 26 else place - bias

theorem threshold_bounds (place bias : Nat) :
    1 ≤ threshold place bias ∧ threshold place bias ≤ 26 := by
  unfold threshold
  split
  · omega
  · split <;> omega

def distance (bias place n : Nat) : List Char :=
  let t := threshold place bias
  if n < t then [digit n]
  else digit (t + (n - t) % (36 - t)) :: distance bias (place + 36) ((n - t) / (36 - t))
termination_by n
decreasing_by
  have := threshold_bounds place bias
  exact Nat.lt_of_le_of_lt (Nat.div_le_self _ _) (by omega)

def biasFor (mean place : Nat) : Nat :=
  if 455 < mean then biasFor (mean / 35) (place + 36) else place + 36 * mean / (mean + 38)
termination_by mean
decreasing_by omega

def adapt (first : Bool) (distance written : Nat) : Nat :=
  let half := if first then distance / 700 else distance / 2
  biasFor (half + half / written) 0

structure State where
  output : List Char := []
  distance : Nat := 0
  bias : Nat := 72
  written : Nat

def State.pass (plain n : Nat) (state : State) (c : Char) : State :=
  if c.toNat < n then { state with distance := state.distance + 1 }
  else if c.toNat = n then
    { output := state.output ++ Punycode.distance state.bias 36 state.distance
      distance := 0
      bias := adapt (state.written = plain) state.distance (state.written + 1)
      written := state.written + 1 }
  else state

/-- A round over the label for each code point, in ascending order; `start` is the least that had
none. -/
def rounds (label : List Char) (plain : Nat) (start : Nat) (state : State) : List Nat → State
  | [] => state
  | n :: rest =>
    let state := { state with distance := state.distance + (n - start) * (state.written + 1) }
    let state := label.foldl (State.pass plain n) state
    rounds label plain (n + 1) { state with distance := state.distance + 1 } rest

/-- The label in ASCII, without the mark that tells it from others. -/
def encode (label : List Char) : List Char :=
  let plain := label.filter (·.toNat < 128)
  let others := ((label.map Char.toNat).filter (128 ≤ ·)).eraseDups.mergeSort
  let state := rounds label plain.length 128 { written := plain.length } others
  plain ++ (if plain.isEmpty then [] else ['-']) ++ state.output

end Punycode

/-! ### Numbers -/

/-- Where a scan for four groups of digits can stand: before the first digit of a group, or after
one. -/
structure QuadPlace where
  group : Nat
  entered : Bool
  deriving DecidableEq

def QuadPlace.next (c : Char) (place : QuadPlace) : List QuadPlace :=
  (if c.isDigit then [⟨place.group, true⟩] else [])
    ++ if place.entered && place.group < 3 then [⟨place.group + 1, false⟩] else []

def looksQuad (host : List Char) : Bool :=
  let start : List QuadPlace := [⟨0, false⟩]
  let places := host.foldl (fun places c => (places.flatMap (QuadPlace.next c)).eraseDups) start
  places.contains ⟨3, true⟩

def decimal (digits : List Char) : Nat :=
  digits.foldl (fun n c => n * 10 + (c.toNat - 48)) 0

def isByte (part : List Char) : Bool :=
  part ≠ [] && part.all Char.isDigit && part.length ≤ 3 && (part = ['0'] || part.head? ≠ some '0')
    && decimal part < 256

def isQuad (host : List Char) : Bool :=
  let parts := Text.splitChars '.' host
  parts.length = 4 && parts.all isByte

def isHextet (part : List Char) : Bool :=
  part ≠ [] && part.length ≤ 4 && part.all isHex

def hextets? (host : List Char) : Option (List (List Char)) :=
  let parts := Text.splitChars ':' host
  let last := parts.getLast?.getD []
  if parts.length < 3 then none
  else if '.' ∈ last then
    if isQuad last then some (parts.dropLast ++ [['0'], ['0']]) else none
  else some parts

/-- Are the parts around left-out ones in order? An empty part at the end belongs to the gap, and
stands alone there. -/
def fitsGap (parts : List (List Char)) : Bool :=
  parts = [[]] || parts.all isHextet

/-- Is the host a number of eight parts? Two colons may stand once for parts that are left out. -/
def isHextets (host : List Char) : Bool :=
  match hextets? host with
  | none => false
  | some parts =>
    let inner := (parts.drop 1).dropLast
    match inner.count [] with
    | 0 => parts.length = 8 && parts.all isHextet
    | 1 =>
      let before := parts.take (1 + inner.idxOf [])
      let after := parts.drop (2 + inner.idxOf [])
      let given := (before ++ after).filter (· ≠ [])
      fitsGap before && fitsGap after && given.length ≤ 7
    | _ => false

def isZoned (host : List Char) : Bool :=
  match Text.splitChars '%' host with
  | [number] => isHextets number
  | [number, zone] => isHextets number && zone ≠ []
  | _ => false

/-! ### Names -/

def fitsLabel (c : Char) : Bool :=
  if c.toNat < 128 then c = '-' || c.isDigit || c.isLower else Text.Table.hostLabel.contains c

def startsLabel (c : Char) : Bool :=
  fitsLabel c && Text.isAlphanumeric c

/-- A label in ASCII. A dash may not stand at either end, nor two of them after two characters. -/
def label? (label : List Char) : Option (List Char) :=
  let written := if label.all (·.toNat < 128) then label
    else 'x' :: 'n' :: '-' :: '-' :: Punycode.encode label
  if !label.head?.any startsLabel || !label.all fitsLabel || label.getLast? = some '-'
      || (label.drop 2).take 2 = ['-', '-'] || 63 < written.length then none
  else some written

def isDot (c : Char) : Bool :=
  c.toNat ∈ [0x2E, 0x3002, 0xFF0E, 0xFF61]

def name? (host : List Char) : Option (List Char) := do
  let parts := Text.splitChars '.' (host.map fun c => if isDot c then '.' else c)
  let (parts, final) := if parts.getLast? = some [] then (parts.dropLast, ["."]) else (parts, [])
  let labels ← parts.mapM label?
  if labels = [] then none
  let name := Text.join "." (labels.map String.ofList) ++ String.join final
  if 253 + final.length < name.length then none else some name.toList

def host? (host : List Char) : Option (List Char) :=
  if host = [] then some []
  else if looksQuad host then if isQuad host then some host else none
  else if host.head? = some '[' && host.getLast? = some ']' then
    let inner := (host.drop 1).dropLast
    if isZoned inner then some inner else none
  else if host.all (·.toNat < 128) then some (encode fitsHost (host.map Char.toLower))
  else name? (Text.lower host)

end GraphqlRequests.Endpoint
