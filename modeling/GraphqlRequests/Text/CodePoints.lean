/-!
# Sets and mappings of code points

A set of code points is the ascending list of the places where membership changes: the characters
before the first place are outside, those from it to the next are inside, and so on. A mapping to
upper or lower case is a list of runs, with a list of the characters that become several.
-/

namespace GraphqlRequests.Text

/-- A set of code points, as the places where membership changes. -/
abbrev CodePoints := List Nat

namespace CodePoints

def holds (inside : Bool) : CodePoints → Nat → Bool
  | [], _ => inside
  | flip :: rest, c => if c < flip then inside else holds (!inside) rest c

def contains (set : CodePoints) (c : Char) : Bool :=
  holds false set c.toNat

end CodePoints

/-- A run of characters `first`, `first + step`, … , `last`, each mapped to the one `shift` away. -/
structure CaseShift where
  first : Nat
  last : Nat
  step : Nat
  shift : Int

namespace CaseShift

def shift? (run : CaseShift) (c : Nat) : Option Nat :=
  if run.first ≤ c ∧ c ≤ run.last ∧ (c - run.first) % run.step = 0 then
    some ((c : Int) + run.shift).toNat
  else none

end CaseShift

/-- The characters that one is mapped to: more than one only where they are listed. -/
def mapCase (runs : List CaseShift) (expansions : List (Nat × List Nat)) (c : Char) : List Char :=
  match expansions.lookup c.toNat with
  | some image => image.map Char.ofNat
  | none => [Char.ofNat ((runs.findSome? (·.shift? c.toNat)).getD c.toNat)]

end GraphqlRequests.Text
