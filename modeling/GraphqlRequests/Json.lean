import GraphqlRequests.Decimal
import GraphqlRequests.Text.Bytes

/-!
# JSON values

The value type behind introspection results, configuration files and server responses.
Objects keep their members in order, and integers are kept apart from other numbers. A text may
hold halves of surrogate pairs that belong to no character; such a broken text is kept as its code
points.
-/

namespace GraphqlRequests

/-- A JSON value. A number with a fraction or an exponent keeps its shortest decimal text. -/
inductive Json where
  | null
  | bool (value : Bool)
  | int (value : Int)
  | float (text : String)
  | string (value : String)
  | broken (codePoints : List Nat)
  | array (items : List Json)
  | object (members : List (String × Json))
  deriving Inhabited, Repr

namespace Json

mutual

def decEq : (a b : Json) → Decidable (a = b)
  | .null, .null => isTrue rfl
  | .bool a, .bool b => decidable_of_iff (a = b) (by simp)
  | .int a, .int b => decidable_of_iff (a = b) (by simp)
  | .float a, .float b => decidable_of_iff (a = b) (by simp)
  | .string a, .string b => decidable_of_iff (a = b) (by simp)
  | .broken a, .broken b => decidable_of_iff (a = b) (by simp)
  | .array a, .array b =>
    match decEqItems a b with
    | isTrue h => isTrue (by rw [h])
    | isFalse h => isFalse (by simpa using h)
  | .object a, .object b =>
    match decEqMembers a b with
    | isTrue h => isTrue (by rw [h])
    | isFalse h => isFalse (by simpa using h)
  | .null, .bool _ | .null, .int _ | .null, .float _ | .null, .string _ | .null, .broken _
  | .null, .array _ | .null, .object _ | .bool _, .null | .bool _, .int _ | .bool _, .float _
  | .bool _, .string _ | .bool _, .broken _ | .bool _, .array _ | .bool _, .object _
  | .int _, .null | .int _, .bool _ | .int _, .float _ | .int _, .string _ | .int _, .broken _
  | .int _, .array _ | .int _, .object _ | .float _, .null | .float _, .bool _ | .float _, .int _
  | .float _, .string _ | .float _, .broken _ | .float _, .array _ | .float _, .object _
  | .string _, .null | .string _, .bool _ | .string _, .int _ | .string _, .float _
  | .string _, .broken _ | .string _, .array _ | .string _, .object _ | .broken _, .null
  | .broken _, .bool _ | .broken _, .int _ | .broken _, .float _ | .broken _, .string _
  | .broken _, .array _ | .broken _, .object _ | .array _, .null | .array _, .bool _
  | .array _, .int _ | .array _, .float _ | .array _, .string _ | .array _, .broken _
  | .array _, .object _ | .object _, .null | .object _, .bool _ | .object _, .int _
  | .object _, .float _ | .object _, .string _ | .object _, .broken _ | .object _, .array _
    => isFalse (by simp)

def decEqItems : (a b : List Json) → Decidable (a = b)
  | [], [] => isTrue rfl
  | [], _ :: _ | _ :: _, [] => isFalse (by simp)
  | x :: xs, y :: ys =>
    match decEq x y, decEqItems xs ys with
    | isTrue h, isTrue hs => isTrue (by rw [h, hs])
    | isFalse h, _ => isFalse (by simp [h])
    | _, isFalse hs => isFalse (by simp [hs])

def decEqMembers : (a b : List (String × Json)) → Decidable (a = b)
  | [], [] => isTrue rfl
  | [], _ :: _ | _ :: _, [] => isFalse (by simp)
  | (k, x) :: xs, (l, y) :: ys =>
    match decEq x y, decEqMembers xs ys with
    | isTrue h, isTrue hs =>
      if hk : k = l then isTrue (by rw [h, hs, hk]) else isFalse (by simp [hk])
    | isFalse h, _ => isFalse (by simp [h])
    | _, isFalse hs => isFalse (by simp [hs])

end

instance : DecidableEq Json := decEq

def member? (key : String) : List (String × Json) → Option Json
  | [] => none
  | (k, v) :: rest => if k = key then some v else member? key rest

/-- Set the member called `key`: an earlier one keeps its place and takes the new value. -/
def setMember (key : String) (value : Json) : List (String × Json) → List (String × Json)
  | [] => [(key, value)]
  | (k, v) :: rest => if k = key then (k, value) :: rest else (k, v) :: setMember key value rest

def get? (key : String) : Json → Option Json
  | .object members => member? key members
  | _ => none

def getD (key : String) (value : Json) : Json :=
  (value.get? key).getD .null

/-- A value counts as present unless it is null, false, zero or empty. -/
def isPresent : Json → Bool
  | .null => false
  | .bool b => b
  | .int i => i ≠ 0
  | .float text => text ≠ "0.0" && text ≠ "-0.0"
  | .string s => s ≠ ""
  | .broken codePoints => !codePoints.isEmpty
  | .array items => !items.isEmpty
  | .object members => !members.isEmpty

def string? : Json → Option String
  | .string s => some s
  | _ => none

def mendedChar (n : Nat) : Char :=
  if Text.isHalf n then '\uFFFD' else Char.ofNat n

def mended (codePoints : List Nat) : String :=
  String.ofList (codePoints.map mendedChar)

def ofCodePoints (codePoints : List Nat) : Json :=
  if codePoints.any Text.isHalf then .broken codePoints else .string (mended codePoints)

/-- The text of a string value, mended where it is broken. -/
def text? : Json → Option String
  | .string s => some s
  | .broken codePoints => some (mended codePoints)
  | _ => none

/-- The whole number that a number literal is equal to, if there is one. -/
def wholeNumber? (text : List Char) : Option Int :=
  let parts := numberParts text
  let (digits, exponent) := parts.decimal
  if parts.isNumber then
    (Decimal.ofDecimal digits exponent).whole?.map fun n => if parts.negative then -(n : Int) else n
  else none

/-- One value for all that are the same to look up by: truth values and numbers that are equal to
whole numbers count as those, however they are written. -/
def key : Json → Json
  | .bool b => .int (if b then 1 else 0)
  | .float text => ((wholeNumber? text.toList).map .int).getD (.float text)
  | value => value

def isKey : Json → Bool
  | .array _ | .object _ => false
  | _ => true

theorem key_eq_string (value : Json) (s : String) : key value = .string s ↔ value = .string s := by
  cases value with
  | float text => cases found : wholeNumber? text.toList <;> simp [key, found]
  | _ => simp [key]

def array? : Json → Option (List Json)
  | .array items => some items
  | _ => none

def object? : Json → Option (List (String × Json))
  | .object members => some members
  | _ => none

/-- The members with each name once: at its first place, with its last value. -/
def distinctMembers (members : List (String × Json)) : List (String × Json) :=
  members.foldl (fun found m => setMember m.1 m.2 found) []

theorem member?_setMember_of_ne {key other : String} (h : other ≠ key) (value : Json)
    (members : List (String × Json)) :
    member? other (setMember key value members) = member? other members := by
  induction members with
  | nil => simp [setMember, member?, h.symm]
  | cons m rest ih =>
    obtain ⟨k, v⟩ := m
    by_cases hk : k = key
    · subst hk
      simp [setMember, member?, h.symm]
    · simp [setMember, member?, hk, ih]

theorem member?_setMember (key : String) (value : Json) (members : List (String × Json)) :
    member? key (setMember key value members) = some value := by
  induction members with
  | nil => simp [setMember, member?]
  | cons m rest ih =>
    obtain ⟨k, v⟩ := m
    by_cases h : k = key <;> simp [setMember, member?, h, ih]

end Json

end GraphqlRequests
