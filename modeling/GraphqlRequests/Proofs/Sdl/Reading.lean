import GraphqlRequests.Proofs.TypeRef.Inversion
import GraphqlRequests.Sdl.Reader
import Mathlib.Data.List.Basic

/-!
# Reading known tokens

What readers make of tokens that are known: lists between marks, references and literals.
-/

namespace GraphqlRequests

open Sdl (Token Literal Ref Reader)

namespace Sdl.Reader

variable {token other : Token} {tokens rest : List Token} {text : String}

/-! ### Single tokens -/

@[simp] theorem run_peek (tokens : List Token) :
    (peek).run tokens = some (tokens.head?, tokens) := rfl

@[simp] theorem run_next : (next).run (token :: rest) = some (token, rest) := rfl

@[simp] theorem run_token : (Reader.token token).run (token :: rest) = some ((), rest) := by
  simp [Reader.token]

@[simp] theorem run_mark {text : String} :
    (mark text).run (.mark text :: rest) = some ((), rest) := by
  simp [mark]

@[simp] theorem run_name {text : String} : (name).run (.name text :: rest) = some (text, rest) := by
  simp [name]

@[simp] theorem run_optional : (optional token).run (token :: rest) = some (true, rest) := by
  simp [optional]

theorem run_optional_of_ne (other : rest.head? ≠ some token) :
    (optional token).run rest = some (false, rest) := by
  simp [optional, other]

theorem run_optional_eq (token : Token) (tokens : List Token) : (optional token).run tokens =
    if tokens.head? = some token then some (true, tokens.tail) else some (false, tokens) := by
  split
  · next starts =>
    obtain ⟨rest, rfl⟩ := List.head?_eq_some_iff.mp starts
    exact run_optional
  · next other => exact run_optional_of_ne other

theorem run_name_eq_some : (name).run tokens = some (text, rest) ↔ tokens = .name text :: rest := by
  refine ⟨fun read => ?_, fun same => same ▸ run_name⟩
  match tokens with
  | .name other :: others =>
    obtain ⟨rfl, rfl⟩ := Prod.mk.inj (Option.some.inj (run_name.symm.trans read))
    rfl

theorem run_mark_eq_some {done : Unit} :
    (mark text).run tokens = some (done, rest) ↔ tokens = .mark text :: rest := by
  refine ⟨fun read => ?_, fun same => same ▸ run_mark⟩
  match tokens with
  | token :: others =>
    by_cases same : token = .mark text
    · subst same
      obtain ⟨-, rfl⟩ := Prod.mk.inj (Option.some.inj (run_mark.symm.trans read))
      rfl
    · simp [mark, Reader.token, same] at read

/-! ### Lists between marks -/

/-- Items between two marks; nothing at all for no items. -/
def bracketed {α : Type} (opening close : String) (tokens : α → List Token) (items : List α) :
    List Token :=
  if items = [] then [] else .mark opening :: (items.flatMap tokens ++ [.mark close])

section Lists

variable {α β : Type} {item : Reader β} {value : α → β} {tokens : α → List Token}
variable {follows : List Token → Prop} {items : List α} {opening close : String}
variable (starts : ∀ a ∈ items, ∀ rest, follows (tokens a ++ rest) ∧
  (tokens a ++ rest).head? ≠ some (.mark close))
include starts

theorem length_le_length_flatMap : items.length ≤ (items.flatMap tokens).length := by
  induction items with
  | nil => exact Nat.le_refl _
  | cons a others ih =>
    obtain ⟨here, later⟩ := List.forall_mem_cons.mp starts
    have one : 1 ≤ (tokens a).length := by
      rw [Nat.one_le_iff_ne_zero, ne_eq, List.length_eq_zero_iff]
      intro none
      exact (here [.mark close]).2 (by rw [none]; rfl)
    have more := ih later
    rw [List.flatMap_cons, List.length_append, List.length_cons]
    omega

variable (reads : ∀ a ∈ items, ∀ rest, follows rest →
  item.run (tokens a ++ rest) = some (value a, rest))
variable (ends : ∀ rest, follows (.mark close :: rest))
include reads ends

theorem run_untilMark {count : Nat} (nonempty : items ≠ []) (enough : items.length ≤ count)
    (rest : List Token) :
    (untilMark close item count).run (items.flatMap tokens ++ .mark close :: rest)
      = some (items.map value, rest) := by
  induction items generalizing count with
  | nil => exact absurd rfl nonempty
  | cons a others ih =>
    obtain _ | count := count
    · cases enough
    obtain ⟨first, later⟩ := List.forall_mem_cons.mp reads
    have ⟨_, begins⟩ := List.forall_mem_cons.mp starts
    rw [List.flatMap_cons, List.append_assoc, untilMark]
    by_cases last : others = []
    · subst last
      simp [first _ (ends rest)]
    · -- The next item starts with something else than the closing mark.
      obtain ⟨b, more, rfl⟩ := List.exists_cons_of_ne_nil last
      obtain ⟨goes, other⟩ :=
        begins b List.mem_cons_self (more.flatMap tokens ++ .mark close :: rest)
      rw [← List.append_assoc, ← List.flatMap_cons] at goes other
      have next := ih begins later last (Nat.le_of_succ_le_succ enough)
      simp only [StateT.run_bind, first _ goes, Option.bind_eq_bind, Option.bind_some,
        run_optional_of_ne other, Bool.false_eq_true, if_false, next]
      rfl

theorem run_untilMark_length (nonempty : items ≠ []) (rest : List Token) :
    (do untilMark close item (← get).length : Reader (List β)).run
      (items.flatMap tokens ++ .mark close :: rest) = some (items.map value, rest) := by
  -- Each item has a token, so as many steps as there are tokens are enough.
  have few := length_le_length_flatMap starts
  refine run_untilMark starts reads ends nonempty ?_ rest
  rw [List.length_append]
  omega

theorem run_between (nonempty : items ≠ []) (rest : List Token) :
    (between opening close item).run
      (.mark opening :: (items.flatMap tokens ++ .mark close :: rest))
      = some (items.map value, rest) := by
  rw [between, StateT.run_bind, run_mark]
  exact run_untilMark_length starts reads ends nonempty rest

theorem run_optionalBetween {rest : List Token} (other : rest.head? ≠ some (.mark opening)) :
    (optionalBetween opening close item).run (bracketed opening close tokens items ++ rest)
      = some (items.map value, rest) := by
  by_cases none : items = []
  · subst none
    simp [optionalBetween, bracketed, other]
  · have read : (between opening close item).run _ = _ := run_between starts reads ends none rest
    simp [optionalBetween, bracketed, none, read]

theorem run_anyBetween (rest : List Token) :
    (anyBetween opening close item).run
      (.mark opening :: (items.flatMap tokens ++ .mark close :: rest))
      = some (items.map value, rest) := by
  by_cases none : items = []
  · subst none
    simp [anyBetween]
  · obtain ⟨a, others, rfl⟩ := List.exists_cons_of_ne_nil none
    have other := (starts a List.mem_cons_self (others.flatMap tokens ++ .mark close :: rest)).2
    rw [← List.append_assoc, ← List.flatMap_cons] at other
    rw [anyBetween, StateT.run_bind, run_mark, Option.bind_eq_bind, Option.bind_some,
      StateT.run_bind, run_optional_of_ne other]
    exact run_untilMark_length starts reads ends none rest

end Lists

end Sdl.Reader

namespace Sdl

/-! ### Types -/

def refTokens : Ref → List Token
  | .named type => [.name type]
  | .list item => .mark "[" :: (refTokens item ++ [.mark "]"])
  | .nonNull inner => refTokens inner ++ [.mark "!"]

namespace Reader

def unmarkedTo : Nat → Reader Ref
  | 0 => namedRef
  | left + 1 => do
    if ← optional (.mark "[") then do
      let item ← refTo left
      mark "]"
      return .list item
    else namedRef

theorem refTo_eq (left : Nat) : refTo left = refTo.marked (unmarkedTo left) := by
  cases left <;> rfl

theorem run_unmarkedTo_named {left : Nat} {type : String} {rest : List Token} :
    (unmarkedTo left).run (.name type :: rest) = some (.named type, rest) := by
  have none : (Token.name type :: rest).head? ≠ some (.mark "[") := by simp
  cases left with
  | zero => simp [unmarkedTo, namedRef]
  | succ left => simp [unmarkedTo, run_optional_of_ne none, namedRef]

theorem run_refTo {ref : Ref} (proper : ref.Proper) {left : Nat}
    (enough : (refTokens ref).length ≤ left) {rest : List Token}
    (other : rest.head? ≠ some (.mark "!")) :
    (refTo left).run (refTokens ref ++ rest) = some (ref, rest) := by
  -- The mark is what tells the two levels apart, so both are read back together.
  suffices both : (ref.isNullable = true → ∀ rest,
      (unmarkedTo left).run (refTokens ref ++ rest) = some (ref, rest)) ∧
      ∀ rest, rest.head? ≠ some (.mark "!") →
        (refTo left).run (refTokens ref ++ rest) = some (ref, rest) from both.2 rest other
  clear other rest
  induction ref generalizing left with
  | named type =>
    refine ⟨fun _ rest => run_unmarkedTo_named, fun rest other => ?_⟩
    simp [refTo_eq, refTo.marked, refTokens, run_unmarkedTo_named, run_optional_of_ne other]
  | list item ih =>
    obtain _ | left := left
    · cases enough
    have fewer : (refTokens item).length ≤ left := by
      simp only [refTokens, List.length_cons, List.length_append, List.length_nil] at enough
      omega
    have inner : ∀ rest, (refTo left).run (refTokens item ++ .mark "]" :: rest)
        = some (item, .mark "]" :: rest) := fun rest => (ih proper fewer).2 _ (by simp)
    have whole : ∀ rest, (unmarkedTo (left + 1)).run (refTokens (.list item) ++ rest)
        = some (.list item, rest) := by
      intro rest
      simp [unmarkedTo, refTokens, inner]
    refine ⟨fun _ => whole, fun rest other => ?_⟩
    simp [refTo_eq, refTo.marked, whole, run_optional_of_ne other]
  | nonNull inner ih =>
    refine ⟨fun nullable => absurd nullable Bool.false_ne_true, fun rest _ => ?_⟩
    have fewer : (refTokens inner).length ≤ left := by
      simp only [refTokens, List.length_append] at enough
      omega
    have below := (ih proper.2 fewer).1 proper.1
    simp [refTo_eq, refTo.marked, refTokens, below]

end Reader

/-! ### Literals -/

theorem length_le_of_mem {α : Type} {items : List α} {a : α} (tokens : α → List Token)
    (member : a ∈ items) : (tokens a).length ≤ (items.flatMap tokens).length := by
  rw [List.flatMap_def]
  exact (List.sublist_flatten_of_mem (List.mem_map_of_mem member)).length_le

namespace Literal

/-- No enum value is written as another literal, and variables stand only where they may. A constant
literal has none. -/
inductive Proper (withVariables : Bool) : Literal → Prop where
  | var {name} (allowed : withVariables = true) : Proper withVariables (.variable name)
  | int {text} : Proper withVariables (.int text)
  | float {text} : Proper withVariables (.float text)
  | string {value block} : Proper withVariables (.string value block)
  | boolean {value} : Proper withVariables (.boolean value)
  | null : Proper withVariables .null
  | enum {name} (other : name ∉ ["true", "false", "null"]) : Proper withVariables (.enum name)
  | list {items} (inside : ∀ item ∈ items, Proper withVariables item) :
      Proper withVariables (.list items)
  | object {fields} (inside : ∀ field ∈ fields, Proper withVariables field.2) :
      Proper withVariables (.object fields)

mutual

def tokens : Literal → List Token
  | .variable name => [.mark "$", .name name]
  | .int text => [.int text]
  | .float text => [.float text]
  | .string value block => [if block then .block value else .text value]
  | .boolean value => [.name (if value then "true" else "false")]
  | .null => [.name "null"]
  | .enum name => [.name name]
  | .list items => .mark "[" :: (itemTokens items ++ [.mark "]"])
  | .object fields => .mark "\x7b" :: (fieldTokens fields ++ [.mark "\x7d"])

def itemTokens : List Literal → List Token
  | [] => []
  | item :: rest => item.tokens ++ itemTokens rest

def fieldTokens : List (String × Literal) → List Token
  | [] => []
  | (key, value) :: rest => .name key :: .mark ":" :: (value.tokens ++ fieldTokens rest)

end

theorem itemTokens_eq (items : List Literal) : itemTokens items = items.flatMap tokens := by
  induction items with
  | nil => rfl
  | cons item rest ih => rw [itemTokens, ih, List.flatMap_cons]

def memberTokens (field : String × Literal) : List Token :=
  .name field.1 :: .mark ":" :: field.2.tokens

theorem fieldTokens_eq (fields : List (String × Literal)) :
    fieldTokens fields = fields.flatMap memberTokens := by
  induction fields with
  | nil => rfl
  | cons field rest ih =>
    rw [fieldTokens, ih, List.flatMap_cons, memberTokens, List.cons_append, List.cons_append]

theorem head?_tokens_ne (literal : Literal) (rest : List Token) :
    (literal.tokens ++ rest).head? ≠ some (.mark "]") := by
  cases literal with
  | string value block => cases block <;> simp [tokens]
  | _ => simp [tokens]

end Literal

namespace Reader

variable {withVariables : Bool} {literal : Literal} {left : Nat} {rest : List Token}

theorem run_literalTo_plain {token : Token} {tokens : List Token}
    (plain : (plainLiteral withVariables).run (token :: tokens) = some (literal, rest))
    (list : token ≠ .mark "[") (object : token ≠ .mark "\x7b") :
    (literalTo withVariables left).run (token :: tokens) = some (literal, rest) := by
  cases left with
  | zero => exact plain
  | succ left =>
    rw [literalTo, StateT.run_bind, run_peek, Option.bind_eq_bind, Option.bind_some]
    split
    · simp_all
    · simp_all
    · exact plain

theorem run_argument {argument : String × Literal}
    (value : (literalTo withVariables left).run (argument.2.tokens ++ rest)
      = some (argument.2, rest)) :
    (Reader.argument withVariables left).run (Literal.memberTokens argument ++ rest)
      = some (argument, rest) := by
  simp [Reader.argument, Literal.memberTokens, value]

/-- A proper literal is read back, whatever follows it. -/
theorem run_literalTo (proper : literal.Proper withVariables)
    (enough : literal.tokens.length ≤ left) (rest : List Token) :
    (literalTo withVariables left).run (literal.tokens ++ rest) = some (literal, rest) := by
  induction proper generalizing left rest with
  | int | float | null => exact run_literalTo_plain rfl nofun nofun
  | var allowed =>
    subst allowed
    exact run_literalTo_plain rfl (by simp) (by simp)
  | @string value block =>
    cases block <;> exact run_literalTo_plain rfl (by simp) (by simp)
  | @boolean value =>
    cases value <;> exact run_literalTo_plain rfl (by simp) (by simp)
  | enum other =>
    refine run_literalTo_plain ?_ nofun nofun
    simp only [List.mem_cons, List.not_mem_nil, or_false, not_or] at other
    simp [plainLiteral, other]
  | @list items _ ih =>
    -- An item has fewer tokens than the list, so that one level less is enough for it.
    obtain _ | left := left
    · cases enough
    rw [Literal.tokens, Literal.itemTokens_eq] at enough ⊢
    have reads : ∀ item ∈ items, ∀ rest, True →
        (literalTo withVariables left).run (item.tokens ++ rest) = some (id item, rest) := by
      intro item member rest _
      refine ih item member ?_ rest
      have part := length_le_of_mem Literal.tokens member
      simp only [List.length_cons, List.length_append] at enough
      omega
    have read : (anyBetween "[" "]" (literalTo withVariables left)).run _ = _ :=
      run_anyBetween (fun item _ rest => ⟨trivial, item.head?_tokens_ne rest⟩) reads
        (fun _ => trivial) rest
    simp [literalTo, read]
  | @object fields _ ih =>
    obtain _ | left := left
    · cases enough
    rw [Literal.tokens, Literal.fieldTokens_eq] at enough ⊢
    have reads : ∀ field ∈ fields, ∀ rest, True →
        (argument withVariables left).run (Literal.memberTokens field ++ rest)
          = some (id field, rest) := by
      intro field member rest _
      refine run_argument (ih field member ?_ rest)
      have part := length_le_of_mem Literal.memberTokens member
      simp only [List.length_cons, List.length_append, Literal.memberTokens] at enough part
      omega
    have opens : ∀ tokens, (literalTo withVariables (left + 1)).run (.mark "\x7b" :: tokens)
        = (do return .object (← anyBetween "\x7b" "\x7d" (argument withVariables left)) :
          Reader Literal).run (.mark "\x7b" :: tokens) := fun _ => rfl
    have read : (anyBetween "\x7b" "\x7d" (argument withVariables left)).run _ = _ :=
      run_anyBetween (fun field _ rest => ⟨trivial, by simp [Literal.memberTokens]⟩) reads
        (fun _ => trivial) rest
    simp [opens, read]

end Reader

end Sdl

end GraphqlRequests
