/-!
# Type references

A schema says which values may *not* be null (`TypeRef.nonNull`); generated code says which values
*may* be absent (`CodeRef.optional`). `TypeRef.toCode` and `CodeRef.toSchema` go between these two
views of one type.
-/

namespace GraphqlRequests

/-- A reference as a schema writes it: nullable unless marked non-null. -/
inductive TypeRef (α : Type) where
  | named (type : α)
  | list (item : TypeRef α)
  | nonNull (inner : TypeRef α)
  deriving DecidableEq, Repr

/-- A reference as generated code writes it: required unless marked optional. -/
inductive CodeRef (α : Type) where
  | named (type : α)
  | list (item : CodeRef α)
  | optional (inner : CodeRef α)
  deriving DecidableEq, Repr

/-- Why a reference cannot be made: an optional one was marked optional again, or something else was
given in its place. -/
inductive RefFailure where
  | doublyOptional
  | notAReference (typeName : String)
  deriving DecidableEq, Repr

def RefFailure.message : RefFailure → String
  | .doublyOptional => "Nullable cannot directly wrap Nullable"
  | .notAReference typeName => "Expected a type reference, got " ++ typeName

variable {α β : Type}

namespace CodeRef

def isOptional : CodeRef α → Bool
  | .optional _ => true
  | _ => false

/-- No optional layer stands directly around another. -/
def Proper : CodeRef α → Prop
  | .named _ => True
  | .list item => item.Proper
  | .optional inner => inner.isOptional = false ∧ inner.Proper

def mark (ref : CodeRef α) : Except RefFailure (CodeRef α) :=
  if ref.isOptional then .error .doublyOptional else .ok (.optional ref)

def innermost : CodeRef α → α
  | .named type => type
  | .list item => item.innermost
  | .optional inner => inner.innermost

def orAbsent : CodeRef α → CodeRef α
  | .optional inner => .optional inner
  | ref => .optional ref

def required : CodeRef α → CodeRef α
  | .optional inner => inner
  | ref => ref

def map (f : α → β) : CodeRef α → CodeRef β
  | .named type => .named (f type)
  | .list item => .list (item.map f)
  | .optional inner => .optional (inner.map f)

def unwrap : CodeRef α → CodeRef α
  | .named type => .named type
  | .list item => item
  | .optional inner => inner

end CodeRef

namespace TypeRef

def isNullable : TypeRef α → Bool
  | .nonNull _ => false
  | _ => true

def innermost : TypeRef α → α
  | .named type => type
  | .list item => item.innermost
  | .nonNull inner => inner.innermost

def nullable : TypeRef α → TypeRef α
  | .nonNull inner => inner
  | ref => ref

def nonNullable : TypeRef α → TypeRef α
  | .nonNull inner => .nonNull inner
  | ref => .nonNull ref

def unwrap : TypeRef α → TypeRef α
  | .named type => .named type
  | .list item => item
  | .nonNull inner => inner

def map (f : α → β) : TypeRef α → TypeRef β
  | .named type => .named (f type)
  | .list item => .list (item.map f)
  | .nonNull inner => .nonNull (inner.map f)

def map? (f : α → Option β) : TypeRef α → Option (TypeRef β)
  | .named type => (f type).map .named
  | .list item => (item.map? f).map .list
  | .nonNull inner => (inner.map? f).map .nonNull

/-- The code's view: each layer becomes optional unless a non-null layer stands around it. -/
def toCode : TypeRef α → CodeRef α
  | .named type => .optional (.named type)
  | .list item => .optional (.list item.toCode)
  | .nonNull inner => inner.toCode.required

end TypeRef

/-- The schema's view: each layer becomes non-null unless an optional layer stands around it. -/
def CodeRef.toSchema : CodeRef α → TypeRef α
  | .named type => .nonNull (.named type)
  | .list item => .nonNull (.list item.toSchema)
  | .optional inner => inner.toSchema.nullable

namespace TypeRef

@[simp] theorem innermost_map (f : α → β) (ref : TypeRef α) :
    (ref.map f).innermost = f ref.innermost := by
  induction ref with
  | named => rfl
  | list _ ih => exact ih
  | nonNull _ ih => exact ih

end TypeRef

end GraphqlRequests
