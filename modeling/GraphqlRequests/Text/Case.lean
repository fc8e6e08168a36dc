import GraphqlRequests.Text.Class
import GraphqlRequests.Text.Table.Casing

/-!
# Upper and lower case

Full case mappings of texts. Lowering looks around a capital sigma: it takes its final form after a
cased character when none follows, ignorable characters aside.
-/

namespace GraphqlRequests.Text

def lowerOf (c : Char) : List Char :=
  if c.toNat < 128 then [c.toLower] else mapCase Table.lowerShifts Table.lowerExpansions c

def upperOf (c : Char) : List Char :=
  if c.toNat < 128 then [c.toUpper] else mapCase Table.upperShifts Table.upperExpansions c

def casedNext : List Char → Bool
  | [] => false
  | c :: rest => if Table.caseIgnorable.contains c then casedNext rest else Table.cased.contains c

/-- Lower a text, given whether a cased character came last, ignorable ones aside. -/
def lowerAfter (cased : Bool) : List Char → List Char
  | [] => []
  | c :: rest =>
    (if c = 'Σ' then [if cased && !casedNext rest then 'ς' else 'σ'] else lowerOf c)
      ++ lowerAfter
        (if Table.caseIgnorable.contains c then cased else Table.cased.contains c) rest

def lower (s : List Char) : List Char :=
  lowerAfter false s

def upper (s : List Char) : List Char :=
  s.flatMap upperOf

theorem lowerAfter_of_ascii (cased : Bool) (s : List Char) (h : ∀ c ∈ s, c.toNat < 128) :
    lowerAfter cased s = s.map Char.toLower := by
  induction s generalizing cased with
  | nil => rfl
  | cons c rest ih =>
    have hc : c.toNat < 128 := h c (by simp)
    have hs : c ≠ 'Σ' := by rintro rfl; revert hc; decide
    simp [lowerAfter, lowerOf, hs, hc, ih _ fun d hd => h d (by simp [hd])]

theorem lower_of_ascii (s : List Char) (h : ∀ c ∈ s, c.toNat < 128) :
    lower s = s.map Char.toLower :=
  lowerAfter_of_ascii false s h

theorem upper_of_ascii (s : List Char) (h : ∀ c ∈ s, c.toNat < 128) :
    upper s = s.map Char.toUpper := by
  induction s with
  | nil => rfl
  | cons c rest ih =>
    have hc : c.toNat < 128 := h c (by simp)
    have ih := ih fun d hd => h d (by simp [hd])
    simp only [upper] at ih
    simp [upper, upperOf, hc, ih]

end GraphqlRequests.Text
