import GraphqlRequests.Json.Writer

/-!
# Names

A name is a text, as a rule; what is received in place of one may be any value. `Name` says what can
be done with either, so that everything but the making of identifiers works on both.
-/

namespace GraphqlRequests

/-- What can stand for a name. -/
class Name (ν : Type) where
  text? : ν → Option String
  /-- The name in running text. -/
  shown : ν → String
  literal : ν → String
  /-- One name for all that are the same to look up by. -/
  key : ν → ν
  /-- Can it be looked up by? -/
  isKey : ν → Bool
  /-- Does it count as given? -/
  isGiven : ν → Bool
  ofText : String → ν
  text?_ofText (text : String) : text? (ofText text) = some text
  shown_ofText (text : String) : shown (ofText text) = text
  isKey_ofText (text : String) : isKey (ofText text) = true
  /-- Nothing but a text is the same to look up by as that text. -/
  key_eq_ofText (name : ν) (text : String) : key name = ofText text ↔ name = ofText text

namespace Name

instance : Name String where
  text? := some
  shown := id
  literal := Text.quoted
  key := id
  isKey _ := true
  isGiven name := name ≠ ""
  ofText := id
  text?_ofText _ := rfl
  shown_ofText _ := rfl
  isKey_ofText _ := rfl
  key_eq_ofText _ _ := Iff.rfl

instance : Name Json where
  text? := Json.text?
  shown := Json.display
  literal := Json.literal
  key := Json.key
  isKey := Json.isKey
  isGiven := Json.isPresent
  ofText := Json.string
  text?_ofText _ := rfl
  shown_ofText _ := rfl
  isKey_ofText _ := rfl
  key_eq_ofText := Json.key_eq_string

@[simp] theorem text?_string (name : String) : text? name = some name := rfl

@[simp] theorem shown_string (name : String) : shown name = name := rfl

@[simp] theorem literal_string (name : String) : literal name = Text.quoted name := rfl

@[simp] theorem key_string (name : String) : key name = name := rfl

@[simp] theorem isKey_string (name : String) : isKey name = true := rfl

@[simp] theorem isGiven_string (name : String) : isGiven name = decide (name ≠ "") := rfl

@[simp] theorem ofText_string (name : String) : (ofText name : String) = name := rfl

attribute [simp] text?_ofText shown_ofText isKey_ofText key_eq_ofText

variable {ν : Type} [Name ν]

@[simp] theorem key_ofText (text : String) : key (ofText text : ν) = ofText text :=
  (key_eq_ofText _ _).mpr rfl

def text (name : ν) : String :=
  (text? name).getD ""

def isText (name : ν) : Bool :=
  (text? name).isSome

@[simp] theorem text_ofText (name : String) : text (ofText name : ν) = name := by
  simp [text]

@[simp] theorem text_string (name : String) : text name = name := rfl

@[simp] theorem isText_string (name : String) : isText name = true := rfl

end Name

end GraphqlRequests
