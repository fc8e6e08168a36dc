import GraphqlRequests.Text.Quoted

/-!
# Similar names

Suggestions for a name that is not known. Two names are the more alike the longer the parts are that
they have in common, in the same order.
-/

namespace GraphqlRequests.Text

def commonStart : List Char → List Char → Nat
  | a :: as, b :: bs => if a = b then commonStart as bs + 1 else 0
  | _, _ => 0

structure CommonPart where
  first : Nat := 0
  second : Nat := 0
  length : Nat := 0

/-- The longest part in common, the earliest of several, first in the one text and then in the
other. -/
def longestCommon (a b : List Char) : CommonPart :=
  (List.range a.length).foldl (fun best i =>
    (List.range b.length).foldl (fun best j =>
      let length := commonStart (a.drop i) (b.drop j)
      if best.length < length then ⟨i, j, length⟩ else best) best) {}

/-- The number of characters in common: those of the longest common part, and those on each side of
it. No more rounds are needed than the first text has characters. -/
def inCommon : Nat → List Char → List Char → Nat
  | 0, _, _ => 0
  | rounds + 1, a, b =>
    let part := longestCommon a b
    if part.length = 0 then 0
    else part.length + inCommon rounds (a.take part.first) (b.take part.second)
      + inCommon rounds (a.drop (part.first + part.length)) (b.drop (part.second + part.length))

structure Likeness where
  name : String
  common : Nat
  total : Nat

namespace Likeness

def of (word name : String) : Likeness :=
  let a := name.toList
  let b := word.toList
  ⟨name, inCommon a.length a b, a.length + b.length⟩

def isClose (likeness : Likeness) : Bool :=
  6 * likeness.total ≤ 20 * likeness.common

/-- The closer of two comes first; of two that are as close, the one that is later in order. -/
def precedes (a b : Likeness) : Bool :=
  b.common * a.total < a.common * b.total
    || (a.common * b.total = b.common * a.total && !(a.name < b.name))

end Likeness

def closest (word : String) (known : List String) : List String :=
  let close := (known.map (Likeness.of word)).filter Likeness.isClose
  ((close.mergeSort Likeness.precedes).take 3).map (·.name)

def suggestion (word : String) (known : List String) : String :=
  match closest word known with
  | [] => ""
  | [name] => " Did you mean " ++ quoted name ++ "?"
  | names => " (Did you mean one of: " ++ join ", " ((sorted names).map quoted) ++ "?)"

end GraphqlRequests.Text
