/-!
# Texts as bytes

The bytes of a text in UTF-8, bytes in base 64, and the code points of a text that comes as bytes.
Such a text may hold halves of surrogate pairs that belong to no character.
-/

namespace GraphqlRequests.Text

/-! ### Bytes of texts -/

def utf8 (s : List Char) : List Nat :=
  s.flatMap fun c => (String.utf8EncodeChar c).map (·.toNat)

def base64Digit (n : Nat) : Char :=
  if n < 26 then Char.ofNat (65 + n)
  else if n < 52 then Char.ofNat (71 + n)
  else if n < 62 then Char.ofNat (n - 4)
  else if n = 62 then '+'
  else '/'

/-- Bytes in base 64: four digits for each three bytes, filled up with equals signs. -/
def base64 : List Nat → List Char
  | [] => []
  | [a] => [base64Digit (a / 4), base64Digit (a % 4 * 16), '=', '=']
  | [a, b] =>
    [base64Digit (a / 4), base64Digit (a % 4 * 16 + b / 16), base64Digit (b % 16 * 4), '=']
  | a :: b :: c :: rest =>
    base64Digit (a / 4) :: base64Digit (a % 4 * 16 + b / 16)
      :: base64Digit (b % 16 * 4 + c / 64) :: base64Digit (c % 64) :: base64 rest

/-! ### Halves of surrogate pairs -/

/-- A unit of a text: a code point as it stands, or sixteen bits, of which two in a row may make one
code point. -/
inductive CodeUnit where
  | whole (n : Nat)
  | sixteen (n : Nat)

def isHalf (n : Nat) : Bool :=
  0xD800 ≤ n && n < 0xE000

/-- Do the two make a pair, the high half first? -/
def isPair (u v : Nat) : Bool :=
  0xD800 ≤ u && u < 0xDC00 && 0xDC00 ≤ v && v < 0xE000

def joinPairs : List CodeUnit → List Nat
  | [] => []
  | .sixteen u :: .sixteen v :: rest =>
    if isPair u v then (0x10000 + (u - 0xD800) * 0x400 + (v - 0xDC00)) :: joinPairs rest
    else u :: joinPairs (.sixteen v :: rest)
  | .sixteen u :: rest | .whole u :: rest => u :: joinPairs rest

/-! ### Texts of bytes -/

/-- What has been read of a text in UTF-8: code points, last first, and a begun one with the bytes
that it still wants and the least number that wants so many. -/
structure Utf8 where
  points : List Nat := []
  wanted : Nat := 0
  least : Nat := 0
  begun : Nat := 0

namespace Utf8

def first (points : List Nat) (byte : Nat) : Option Utf8 :=
  if byte < 0x80 then some { points := byte :: points }
  else if byte < 0xC0 then none
  else if byte < 0xE0 then some { points, wanted := 1, least := 0x80, begun := byte - 0xC0 }
  else if byte < 0xF0 then some { points, wanted := 2, least := 0x800, begun := byte - 0xE0 }
  else if byte < 0xF8 then some { points, wanted := 3, least := 0x10000, begun := byte - 0xF0 }
  else none

def step (text : Utf8) (byte : Nat) : Option Utf8 :=
  if text.wanted = 0 then first text.points byte
  else if byte < 0x80 || 0xC0 ≤ byte then none
  else
    let n := text.begun * 0x40 + (byte - 0x80)
    if 1 < text.wanted then some { text with wanted := text.wanted - 1, begun := n }
    else if text.least ≤ n && n < 0x110000 then some { points := n :: text.points }
    else none

def finish (text : Utf8) : Option (List Nat) :=
  if text.wanted = 0 then some text.points.reverse else none

end Utf8

def fromUtf8 (bytes : List Nat) : Option (List Nat) := do
  (← bytes.foldlM Utf8.step {}).finish

/-- Two in a row as one number, of which either may be the greater part. -/
def inPairs (size : Nat) (bigFirst : Bool) : List Nat → Option (List Nat)
  | [] => some []
  | [_] => none
  | a :: b :: rest =>
    (inPairs size bigFirst rest).map
      ((if bigFirst then a * size + b else b * size + a) :: ·)

def fromUtf16 (bigFirst : Bool) (bytes : List Nat) : Option (List Nat) :=
  (inPairs 0x100 bigFirst bytes).map fun units => joinPairs (units.map .sixteen)

def fromUtf32 (bigFirst : Bool) (bytes : List Nat) : Option (List Nat) := do
  let halves ← inPairs 0x100 bigFirst bytes
  let points ← inPairs 0x10000 bigFirst halves
  if points.all (· < 0x110000) then some points else none

/-! ### Encodings of JSON -/

inductive Encoding where
  | utf8
  | utf16 (bigFirst : Bool)
  | utf32 (bigFirst : Bool)
  deriving DecidableEq, Repr

namespace Encoding

def read : Encoding → List Nat → Option (List Nat)
  | .utf8, bytes => fromUtf8 bytes
  | .utf16 bigFirst, bytes => fromUtf16 bigFirst bytes
  | .utf32 bigFirst, bytes => fromUtf32 bigFirst bytes

/-- The byte order marks, a longer one before one that it starts with. -/
def marks : List (List Nat × Encoding) :=
  [([0x00, 0x00, 0xFE, 0xFF], .utf32 true), ([0xFF, 0xFE, 0x00, 0x00], .utf32 false),
    ([0xFE, 0xFF], .utf16 true), ([0xFF, 0xFE], .utf16 false), ([0xEF, 0xBB, 0xBF], .utf8)]

/-- The encoding of a text without a mark. JSON starts with two characters that take one byte each
in UTF-8, so the zero bytes among the first four show how wide they are. -/
def guess : List Nat → Encoding
  | a :: b :: c :: d :: _ =>
    if a = 0 then if b = 0 then .utf32 true else .utf16 true
    else if b = 0 then if c = 0 && d = 0 then .utf32 false else .utf16 false
    else .utf8
  | [a, b] => if a = 0 then .utf16 true else if b = 0 then .utf16 false else .utf8
  | _ => .utf8

end Encoding

/-- The code points of a text of JSON, or nothing where its bytes make none. -/
def fromBytes (bytes : List Nat) : Option (List Nat) :=
  match Encoding.marks.find? fun mark => mark.1.isPrefixOf bytes with
  | some (mark, encoding) => encoding.read (bytes.drop mark.length)
  | none => (Encoding.guess bytes).read bytes

end GraphqlRequests.Text
