import GraphqlRequests.Proofs.Naming.Distinct
import GraphqlRequests.Proofs.Naming.Members

/-!
# Names of attributes

The name of an attribute is an identifier that does not start with an underscore, as aliases do,
and has no capital, if what it stands for has a name of the query language. Underscores after it
change nothing of this.
-/

namespace GraphqlRequests.Naming

open Text
open Source (isName)

variable {s : List Char} {c : Char} {name : String}

/-! ### First letters -/

def Public (name : String) : Prop :=
  ∃ c rest, name.toList = c :: rest ∧ c ≠ '_'

theorem Public.underscored (visible : Public name) (n : Nat) : Public (underscored name n) := by
  obtain ⟨c, rest, chars, other⟩ := visible
  exact ⟨c, rest ++ List.replicate n '_', by simp [Naming.underscored, chars], other⟩

theorem public_attributeName (name : String) : Public (attributeName name) := by
  rw [Public, attributeName, String.toList_ofList]
  obtain ⟨c, rest, other, -, same | ⟨same, -⟩⟩ := identifierChars_shape (snakeChars name.toList)
  · exact ⟨c, rest ++ ['_'], same, other⟩
  · exact ⟨c, rest, same, other⟩

/-! ### Capitals -/

def Small (name : String) : Prop :=
  ∀ c ∈ name.toList, c.isUpper = false

theorem Small.underscored (small : Small name) (n : Nat) : Small (underscored name n) := by
  intro c member
  rw [Naming.underscored, String.toList_append, String.toList_ofList] at member
  rcases List.mem_append.mp member with inside | further
  · exact small c inside
  · rw [List.eq_of_mem_replicate further]
    decide

theorem mem_identifierChars (member : c ∈ identifierChars s) : c ∈ s ∨ c ∈ added := by
  obtain ⟨d, rest, -, letters, same | ⟨same, -⟩⟩ := identifierChars_shape s
  · rw [same, List.mem_append, List.mem_singleton] at member
    rcases member with inside | rfl
    · exact (letters c inside).2
    · exact .inr (by decide)
  · exact (letters c (same ▸ member)).2

theorem small_attributeName (named : Sdl.isName name.toList = true) :
    Small (attributeName name) := by
  intro c member
  rw [attributeName, String.toList_ofList] at member
  have small : added.any Char.isUpper = false := by decide
  rcases mem_identifierChars member with inside | extra
  · exact isUpper_snakeChars (isPlain_of_isName named) c inside
  · simpa using List.any_eq_false.mp small c extra

/-! ### Attributes -/

/-- An identifier as attributes have it. -/
structure Attributelike (name : String) : Prop where
  legal : isName name = true
  visible : Public name
  small : Small name

theorem Attributelike.underscored (attributelike : Attributelike name) (n : Nat) :
    Attributelike (underscored name n) where
  legal := isName_underscored attributelike.legal n
  visible := attributelike.visible.underscored n
  small := attributelike.small.underscored n

theorem attributelike_attributeName (named : Sdl.isName name.toList = true) :
    Attributelike (attributeName name) where
  legal := isName_attributeName named
  visible := public_attributeName name
  small := small_attributeName named

end GraphqlRequests.Naming
