import GraphqlRequests.TypeRef

/-!
# The two views of a reference

`toCode` and `toSchema` undo each other, but for stacked non-null layers, of which one is left. Both
keep the innermost type and the lists around it, and what may be null or absent inside each of them.
-/

namespace GraphqlRequests

variable {α : Type}

/-! ### What the two views share -/

namespace TypeRef

/-- No non-null layer stands directly around another. -/
def Proper : TypeRef α → Prop
  | .named _ => True
  | .list item => item.Proper
  | .nonNull inner => inner.isNullable = true ∧ inner.Proper

/-- Of each run of non-null layers, one is left. -/
def collapse : TypeRef α → TypeRef α
  | .named type => .named type
  | .list item => .list item.collapse
  | .nonNull (.nonNull inner) => collapse (.nonNull inner)
  | .nonNull inner => .nonNull inner.collapse

def lists : TypeRef α → Nat
  | .named _ => 0
  | .list item => item.lists + 1
  | .nonNull inner => inner.lists

/-- What stands inside of so many list layers. -/
def element? : TypeRef α → Nat → Option (TypeRef α)
  | ref, 0 => some ref
  | .named _, _ + 1 => none
  | .list item, depth + 1 => item.element? depth
  | .nonNull inner, depth + 1 => inner.element? (depth + 1)

/-- The code's view, where each layer is made by `mark`, which refuses what is optional already. -/
def checkedCode : TypeRef α → Except RefFailure (CodeRef α)
  | .named type => CodeRef.mark (.named type)
  | .list item => do CodeRef.mark (.list (← item.checkedCode))
  | .nonNull inner => do return (← inner.checkedCode).required

end TypeRef

namespace CodeRef

def lists : CodeRef α → Nat
  | .named _ => 0
  | .list item => item.lists + 1
  | .optional inner => inner.lists

def element? : CodeRef α → Nat → Option (CodeRef α)
  | ref, 0 => some ref
  | .named _, _ + 1 => none
  | .list item, depth + 1 => item.element? depth
  | .optional inner, depth + 1 => inner.element? (depth + 1)

end CodeRef

/-- Both are views of one type: the same type stands inside of as many lists, and inside of each
list what may be null in the schema may be absent in code. -/
structure SameType (ref : TypeRef α) (code : CodeRef α) : Prop where
  innermost : code.innermost = ref.innermost
  lists : code.lists = ref.lists
  optional : ∀ depth, (code.element? depth).map CodeRef.isOptional
    = (ref.element? depth).map TypeRef.isNullable

/-! ### Layers -/

namespace CodeRef

@[simp] theorem innermost_map {β : Type} (f : α → β) (code : CodeRef α) :
    (code.map f).innermost = f code.innermost := by
  induction code with
  | named => rfl
  | list _ ih => exact ih
  | optional _ ih => exact ih

@[simp] theorem innermost_orAbsent (code : CodeRef α) :
    code.orAbsent.innermost = code.innermost := by
  cases code <;> rfl

@[simp] theorem innermost_required (code : CodeRef α) :
    code.required.innermost = code.innermost := by
  cases code <;> rfl

@[simp] theorem lists_required (code : CodeRef α) : code.required.lists = code.lists := by
  cases code <;> rfl

@[simp] theorem element?_zero (code : CodeRef α) : code.element? 0 = some code := by
  cases code <;> rfl

theorem element?_required (code : CodeRef α) (depth : Nat) :
    code.required.element? (depth + 1) = code.element? (depth + 1) := by
  cases code <;> rfl

end CodeRef

namespace TypeRef

@[simp] theorem innermost_nullable (ref : TypeRef α) : ref.nullable.innermost = ref.innermost := by
  cases ref <;> rfl

@[simp] theorem lists_nullable (ref : TypeRef α) : ref.nullable.lists = ref.lists := by
  cases ref <;> rfl

@[simp] theorem element?_zero (ref : TypeRef α) : ref.element? 0 = some ref := by
  cases ref <;> rfl

theorem element?_nullable (ref : TypeRef α) (depth : Nat) :
    ref.nullable.element? (depth + 1) = ref.element? (depth + 1) := by
  cases ref <;> rfl

@[simp] theorem isNullable_map {β : Type} (f : α → β) (ref : TypeRef α) :
    (ref.map f).isNullable = ref.isNullable := by
  cases ref <;> rfl

theorem proper_map {β : Type} {ref : TypeRef α} (f : α → β) : (ref.map f).Proper ↔ ref.Proper := by
  induction ref with
  | named => rfl
  | list _ ih => exact ih
  | nonNull _ ih => rw [TypeRef.map, Proper, Proper, isNullable_map, ih]

/-! ### The code's view -/

@[simp] theorem innermost_toCode (ref : TypeRef α) : ref.toCode.innermost = ref.innermost := by
  induction ref with
  | named => rfl
  | list _ ih => exact ih
  | nonNull _ ih => rwa [toCode, CodeRef.innermost_required]

theorem toCode_proper (ref : TypeRef α) :
    ref.toCode.Proper ∧ ref.toCode.isOptional = ref.isNullable := by
  induction ref with
  | named => exact ⟨⟨rfl, trivial⟩, rfl⟩
  | list item ih => exact ⟨⟨rfl, ih.1⟩, rfl⟩
  | nonNull inner ih =>
    obtain ⟨proper, -⟩ := ih
    rw [toCode]
    cases code : inner.toCode with
    | optional layer =>
      rw [code] at proper
      exact ⟨proper.2, proper.1⟩
    | named | list =>
      rw [code] at proper
      exact ⟨proper, rfl⟩

theorem checkedCode_eq (ref : TypeRef α) : ref.checkedCode = .ok ref.toCode := by
  induction ref with
  | named => rfl
  | list item ih => rw [checkedCode, ih]; rfl
  | nonNull inner ih => rw [checkedCode, ih]; rfl

theorem element?_toCode (ref : TypeRef α) (depth : Nat) :
    ref.toCode.element? depth = (ref.element? depth).map toCode := by
  induction ref generalizing depth with
  | named => cases depth <;> rfl
  | list item ih =>
    cases depth with
    | zero => rfl
    | succ depth => exact ih depth
  | nonNull inner ih =>
    cases depth with
    | zero => simp
    | succ depth => rw [toCode, CodeRef.element?_required, ih]; rfl

theorem sameType_toCode (ref : TypeRef α) : SameType ref ref.toCode where
  innermost := innermost_toCode ref
  lists := by
    induction ref with
    | named => rfl
    | list item ih => exact congrArg (· + 1) ih
    | nonNull inner ih => rwa [toCode, CodeRef.lists_required]
  optional depth := by
    simp only [element?_toCode, Option.map_map, Function.comp_def, (toCode_proper _).2]

end TypeRef

/-! ### The schema's view -/

namespace CodeRef

theorem toSchema_proper (code : CodeRef α) :
    code.toSchema.Proper ∧ code.toSchema.isNullable = code.isOptional := by
  induction code with
  | named => exact ⟨⟨rfl, trivial⟩, rfl⟩
  | list item ih => exact ⟨⟨rfl, ih.1⟩, rfl⟩
  | optional inner ih =>
    obtain ⟨proper, -⟩ := ih
    rw [toSchema]
    cases ref : inner.toSchema with
    | nonNull layer =>
      rw [ref] at proper
      exact ⟨proper.2, proper.1⟩
    | named | list =>
      rw [ref] at proper
      exact ⟨proper, rfl⟩

theorem element?_toSchema (code : CodeRef α) (depth : Nat) :
    code.toSchema.element? depth = (code.element? depth).map toSchema := by
  induction code generalizing depth with
  | named => cases depth <;> rfl
  | list item ih =>
    cases depth with
    | zero => rfl
    | succ depth => exact ih depth
  | optional inner ih =>
    cases depth with
    | zero => simp
    | succ depth => rw [toSchema, TypeRef.element?_nullable, ih]; rfl

theorem sameType_toSchema (code : CodeRef α) : SameType code.toSchema code where
  innermost := by
    induction code with
    | named => rfl
    | list item ih => exact ih
    | optional inner ih => rwa [toSchema, TypeRef.innermost_nullable]
  lists := by
    induction code with
    | named => rfl
    | list item ih => exact congrArg (· + 1) ih
    | optional inner ih => rwa [toSchema, TypeRef.lists_nullable]
  optional depth := by
    simp only [element?_toSchema, Option.map_map, Function.comp_def, (toSchema_proper _).2]

end CodeRef

/-! ### Outermost layers -/

namespace CodeRef

variable {code : CodeRef α}

theorem toSchema_required (proper : code.Proper) :
    code.required.toSchema = code.toSchema.nonNullable := by
  cases code with
  | named | list => rfl
  | optional inner =>
    obtain ⟨plain, -⟩ := proper
    cases inner with
    | named | list => rfl
    | optional => cases plain

end CodeRef

namespace TypeRef

variable {ref : TypeRef α}

theorem toCode_nullable (proper : ref.Proper) : ref.nullable.toCode = ref.toCode.orAbsent := by
  cases ref with
  | named | list => rfl
  | nonNull inner =>
    obtain ⟨plain, -⟩ := proper
    cases inner with
    | named | list => rfl
    | nonNull => cases plain

theorem toCode_nonNullable (proper : ref.Proper) :
    ref.nonNullable.toCode = ref.toCode.required := by
  cases ref with
  | named | list => rfl
  | nonNull inner =>
    obtain ⟨plain, -⟩ := proper
    cases inner with
    | named | list => rfl
    | nonNull => cases plain

/-! ### There and back -/

theorem collapse_nonNull (inner : TypeRef α) :
    (nonNull inner).collapse = inner.collapse.nonNullable := by
  induction inner with
  | named => rfl
  | list => rfl
  | nonNull layer ih =>
    rw [collapse, ih]
    cases layer.collapse <;> rfl

theorem collapse_eq_self (proper : ref.Proper) : ref.collapse = ref := by
  induction ref with
  | named => rfl
  | list item ih => rw [collapse, ih proper]
  | nonNull inner ih =>
    obtain ⟨plain, proper⟩ := proper
    rw [collapse_nonNull, ih proper]
    cases inner with
    | named | list => rfl
    | nonNull => cases plain

theorem toSchema_toCode (ref : TypeRef α) : ref.toCode.toSchema = ref.collapse := by
  induction ref with
  | named => rfl
  | list item ih => exact congrArg list ih
  | nonNull inner ih =>
    rw [toCode, CodeRef.toSchema_required (toCode_proper inner).1, ih, collapse_nonNull]

end TypeRef

theorem CodeRef.toCode_toSchema {code : CodeRef α} (proper : code.Proper) :
    code.toSchema.toCode = code := by
  induction code with
  | named => rfl
  | list item ih => exact congrArg list (ih proper)
  | optional inner ih =>
    obtain ⟨plain, proper⟩ := proper
    rw [toSchema, TypeRef.toCode_nullable (toSchema_proper inner).1, ih proper]
    cases inner with
    | named | list => rfl
    | optional => cases plain

/-- There and back, one non-null layer of each run is left; from code's view, nothing is changed.
No layer is refused on the way, and both views are of one type. Where no layers are stacked, the
outermost one can be changed in either view. -/
theorem TypeRef.views_inverse :
    (∀ ref : TypeRef α, ref.toCode.toSchema = ref.collapse ∧ ref.checkedCode = .ok ref.toCode ∧
      ref.toCode.Proper ∧ SameType ref ref.toCode ∧
      (ref.Proper → ref.collapse = ref ∧ ref.nullable.toCode = ref.toCode.orAbsent ∧
        ref.nonNullable.toCode = ref.toCode.required)) ∧
    ∀ code : CodeRef α, code.toSchema.Proper ∧ SameType code.toSchema code ∧
      (code.Proper → code.toSchema.toCode = code) := by
  refine ⟨fun ref => ⟨toSchema_toCode ref, checkedCode_eq ref, (toCode_proper ref).1,
    sameType_toCode ref, fun proper => ?_⟩, fun code => ?_⟩
  · exact ⟨collapse_eq_self proper, toCode_nullable proper, toCode_nonNullable proper⟩
  · exact ⟨(CodeRef.toSchema_proper code).1, CodeRef.sameType_toSchema code,
      CodeRef.toCode_toSchema⟩

theorem TypeRef.views_inverse_of_stacked :
    let stacked : TypeRef String :=
      .nonNull (.nonNull (.list (.nonNull (.nonNull (.named "User")))))
    let proper : TypeRef String := .nonNull (.list (.nonNull (.named "User")))
    let code : CodeRef String := .list (.optional (.list (.named "User")))
    proper.Proper ∧ code.Proper ∧ stacked.toCode.toSchema = proper ∧
      proper.toCode.toSchema = proper ∧ proper.nullable.toCode = .optional (.list (.named "User")) ∧
      code.toSchema.toCode = code := by
  intro stacked proper code
  have noneStacked : proper.Proper := ⟨rfl, rfl, trivial⟩
  have plain : code.Proper := ⟨rfl, trivial⟩
  obtain ⟨schema, views⟩ := TypeRef.views_inverse (α := String)
  obtain ⟨back, -, -, -, accessors⟩ := schema proper
  obtain ⟨same, nullable, -⟩ := accessors noneStacked
  exact ⟨noneStacked, plain, (schema stacked).1, back.trans same, nullable,
    (views code).2.2 plain⟩

end GraphqlRequests
