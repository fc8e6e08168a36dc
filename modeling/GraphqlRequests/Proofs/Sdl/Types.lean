import GraphqlRequests.Proofs.Sdl.Reading
import Mathlib.Logic.Function.Iterate

/-!
# The grammar of types

A type is read from the tokens of a reference, and from no others. In the schema language a mark
that something cannot be null follows what has no such mark; where marks may repeat, the tokens of
every reference are those of a type.
-/

namespace GraphqlRequests.Sdl

/-! ### The two grammars -/

namespace Reader

def unmarked (item : Reader Ref) : Reader Ref := do
  if ← optional (.mark "[") then do
    let ref ← item
    mark "]"
    return .list ref
  else namedRef

def marksAround (ref : Ref) : Nat → Reader Ref
  | 0 => return ref
  | count + 1 => do
    if ← optional (.mark "!") then marksAround (.nonNull ref) count else return ref

def stacked (inner : Reader Ref) : Reader Ref := do
  let ref ← inner
  marksAround ref (← get).length

/-- A type reference in which marks may repeat and lists may nest to the given depth. -/
def stackedTo : Nat → Reader Ref
  | 0 => stacked namedRef
  | left + 1 => stacked (unmarked (stackedTo left))

/-- A reference and nothing else, as deep as there are tokens. -/
def whole? (type : Nat → Reader Ref) (text : String) : Option Ref := do
  let tokens ← tokens? text
  let (ref, rest) ← (type tokens.length).run tokens
  if rest = [] then some ref else none

end Reader

def type? : String → Option Ref :=
  Reader.whole? Reader.refTo

def stackedType? : String → Option Ref :=
  Reader.whole? Reader.stackedTo

namespace Reader

variable {reader : Reader Ref} {type : Nat → Reader Ref} {holds : Ref → Prop}
variable {ref whole : Ref} {tokens rest : List Token} {text : String} {left count : Nat}

/-- What is taken from the front are the tokens of the reference that is read. -/
def Yields (reader : Reader Ref) (holds : Ref → Prop) : Prop :=
  ∀ tokens ref rest, reader.run tokens = some (ref, rest) →
    tokens = refTokens ref ++ rest ∧ holds ref

/-- The references with the property are read, each from its tokens, and nothing else is. -/
structure Reads (type : Nat → Reader Ref) (holds : Ref → Prop) : Prop where
  yields : ∀ left, Yields (type left) holds
  read : ∀ ref left rest, holds ref → (refTokens ref).length ≤ left →
    rest.head? ≠ some (.mark "!") → (type left).run (refTokens ref ++ rest) = some (ref, rest)

theorem Reads.whole?_eq_some (reads : Reads type holds) :
    whole? type text = some ref ↔ tokens? text = some (refTokens ref) ∧ holds ref := by
  simp only [whole?, Option.bind_eq_bind, Option.bind_eq_some_iff, Option.ite_none_right_eq_some]
  constructor
  · rintro ⟨tokens, lexed, ⟨other, rest⟩, read, rfl, same⟩
    obtain rfl := Option.some.inj same
    obtain ⟨spelled, held⟩ := reads.yields _ tokens other [] read
    rw [List.append_nil] at spelled
    exact ⟨spelled ▸ lexed, held⟩
  · rintro ⟨lexed, held⟩
    have read := reads.read ref _ [] held (Nat.le_refl _) nofun
    rw [List.append_nil] at read
    exact ⟨_, lexed, _, read, rfl, rfl⟩

/-! ### What is read are tokens of a reference -/

theorem Yields.mono {other : Ref → Prop} (yields : Yields reader holds)
    (imp : ∀ ref, holds ref → other ref) : Yields reader other := by
  intro tokens ref rest read
  exact (yields tokens ref rest read).imp_right (imp ref)

theorem yields_namedRef : Yields namedRef fun ref => ∃ name, ref = .named name := by
  intro tokens ref rest read
  rw [namedRef, StateT.run_bind, Option.bind_eq_bind, Option.bind_eq_some_iff] at read
  obtain ⟨⟨name, others⟩, named, same⟩ := read
  obtain ⟨rfl, rfl⟩ := Prod.mk.inj (Option.some.inj same)
  exact ⟨run_name_eq_some.mp named, name, rfl⟩

theorem yields_unmarked (items : Yields reader holds) : Yields (unmarked reader) fun ref =>
    (∃ name, ref = .named name) ∨ ∃ item, ref = .list item ∧ holds item := by
  intro tokens ref rest read
  rw [unmarked, StateT.run_bind, run_optional_eq] at read
  split at read
  · next starts =>
    obtain ⟨inside, rfl⟩ := List.head?_eq_some_iff.mp starts
    simp only [List.tail_cons, Option.bind_eq_bind, Option.bind_some, if_true, StateT.run_bind,
      Option.bind_eq_some_iff] at read
    obtain ⟨⟨item, closing⟩, inner, ⟨done, others⟩, closed, same⟩ := read
    obtain ⟨rfl, rfl⟩ := Prod.mk.inj (Option.some.inj same)
    obtain ⟨spelled, held⟩ := items inside item closing inner
    have mark : closing = .mark "]" :: others := run_mark_eq_some.mp closed
    exact ⟨by simp [spelled, mark, refTokens], .inr ⟨item, rfl, held⟩⟩
  · obtain ⟨spelled, named⟩ := yields_namedRef tokens ref rest read
    exact ⟨spelled, .inl named⟩

theorem yields_marked (inner : Yields reader fun ref => ref.isNullable = true ∧ ref.Proper) :
    Yields (refTo.marked reader) TypeRef.Proper := by
  intro tokens ref rest read
  rw [refTo.marked, StateT.run_bind, Option.bind_eq_bind, Option.bind_eq_some_iff] at read
  obtain ⟨⟨bare, others⟩, first, read⟩ := read
  obtain ⟨rfl, nullable, proper⟩ := inner tokens bare others first
  rw [StateT.run_bind, run_optional_eq] at read
  split at read
  · next starts =>
    obtain ⟨after, rfl⟩ := List.head?_eq_some_iff.mp starts
    obtain ⟨rfl, rfl⟩ := Prod.mk.inj (Option.some.inj read)
    exact ⟨by simp [refTokens], nullable, proper⟩
  · obtain ⟨rfl, rfl⟩ := Prod.mk.inj (Option.some.inj read)
    exact ⟨rfl, proper⟩

theorem refTokens_marksAround (read : (marksAround ref count).run tokens = some (whole, rest)) :
    refTokens ref ++ tokens = refTokens whole ++ rest := by
  induction count generalizing ref tokens with
  | zero =>
    obtain ⟨rfl, rfl⟩ := Prod.mk.inj (Option.some.inj read)
    rfl
  | succ count ih =>
    rw [marksAround, StateT.run_bind, run_optional_eq] at read
    split at read
    · next starts =>
      obtain ⟨after, rfl⟩ := List.head?_eq_some_iff.mp starts
      rw [← ih read]
      simp [refTokens]
    · obtain ⟨rfl, rfl⟩ := Prod.mk.inj (Option.some.inj read)
      rfl

theorem yields_stacked (inner : Yields reader holds) : Yields (stacked reader) fun _ => True := by
  intro tokens ref rest read
  rw [stacked, StateT.run_bind, Option.bind_eq_bind, Option.bind_eq_some_iff] at read
  obtain ⟨⟨bare, others⟩, first, read⟩ := read
  obtain ⟨rfl, -⟩ := inner tokens bare others first
  exact ⟨refTokens_marksAround read, trivial⟩

theorem yields_stackedTo (left : Nat) : Yields (stackedTo left) fun _ => True := by
  induction left with
  | zero => exact yields_stacked yields_namedRef
  | succ left ih => exact yields_stacked (yields_unmarked ih)

theorem yields_refTo (left : Nat) : Yields (refTo left) TypeRef.Proper := by
  induction left with
  | zero =>
    refine yields_marked (yields_namedRef.mono ?_)
    rintro _ ⟨name, rfl⟩
    exact ⟨rfl, trivial⟩
  | succ left ih =>
    refine yields_marked ((yields_unmarked ih).mono ?_)
    rintro _ (⟨name, rfl⟩ | ⟨item, rfl, proper⟩)
    · exact ⟨rfl, trivial⟩
    · exact ⟨rfl, proper⟩

/-! ### Each reference is read from its tokens -/

theorem run_marksAround (ref : Ref) (other : rest.head? ≠ some (.mark "!")) {marks : Nat}
    (enough : marks ≤ count) :
    (marksAround ref count).run (List.replicate marks (.mark "!") ++ rest)
      = some (TypeRef.nonNull^[marks] ref, rest) := by
  induction marks generalizing count ref with
  | zero =>
    cases count with
    | zero => rfl
    | succ count => simp [marksAround, run_optional_of_ne other]
  | succ marks ih =>
    obtain _ | count := count
    · cases enough
    have later := ih (.nonNull ref) (Nat.le_of_succ_le_succ enough)
    simp [marksAround, List.replicate_succ, later]

theorem run_stacked (other : rest.head? ≠ some (.mark "!")) {marks : Nat}
    (inner : reader.run tokens = some (ref, List.replicate marks (.mark "!") ++ rest)) :
    (stacked reader).run tokens = some (TypeRef.nonNull^[marks] ref, rest) := by
  have enough : marks ≤ (List.replicate marks (Token.mark "!") ++ rest).length := by simp
  rw [stacked, StateT.run_bind, inner]
  exact run_marksAround ref other enough

theorem run_unmarked_named {name : String} :
    (unmarked reader).run (.name name :: rest) = some (.named name, rest) := by
  have none : (Token.name name :: rest).head? ≠ some (.mark "[") := by simp
  simp [unmarked, run_optional_of_ne none, namedRef]

theorem run_unmarked_list (inner : reader.run tokens = some (ref, .mark "]" :: rest)) :
    (unmarked reader).run (.mark "[" :: tokens) = some (.list ref, rest) := by
  simp [unmarked, inner]

theorem run_stackedTo (enough : (refTokens ref).length ≤ left) (marks : Nat)
    (other : rest.head? ≠ some (.mark "!")) :
    (stackedTo left).run (refTokens ref ++ (List.replicate marks (.mark "!") ++ rest))
      = some (TypeRef.nonNull^[marks] ref, rest) := by
  induction ref generalizing left marks rest with
  | named name =>
    cases left with
    | zero => cases enough
    | succ left => exact run_stacked other run_unmarked_named
  | list item ih =>
    obtain _ | left := left
    · cases enough
    have fewer : (refTokens item).length ≤ left := by
      simp only [refTokens, List.length_cons, List.length_append, List.length_nil] at enough
      omega
    have closes : (.mark "]" :: (List.replicate marks (.mark "!") ++ rest)).head?
        ≠ some (Token.mark "!") := by simp
    rw [refTokens, List.cons_append, List.append_assoc]
    exact run_stacked other (run_unmarked_list (ih fewer 0 closes))
  | nonNull inner ih =>
    have fewer : (refTokens inner).length ≤ left := by
      simp only [refTokens, List.length_append] at enough
      omega
    have around := ih fewer (marks + 1) other
    rw [List.replicate_succ] at around
    rw [refTokens, List.append_assoc]
    exact around

theorem reads_refTo : Reads refTo TypeRef.Proper where
  yields := yields_refTo
  read _ _ _ proper enough other := run_refTo proper enough other

theorem reads_stackedTo : Reads stackedTo fun _ => True where
  yields := yields_stackedTo
  read _ _ _ _ enough other := run_stackedTo enough 0 other

end Reader

theorem type?_eq_some {text : String} {type : Ref} :
    type? text = some type ↔ tokens? text = some (refTokens type) ∧ type.Proper :=
  Reader.reads_refTo.whole?_eq_some

theorem stackedType?_eq_some {text : String} {type : Ref} :
    stackedType? text = some type ↔ tokens? text = some (refTokens type) := by
  rw [stackedType?, Reader.reads_stackedTo.whole?_eq_some, and_true]

end GraphqlRequests.Sdl
