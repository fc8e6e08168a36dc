import GraphqlRequests.Proofs.Executable.Lexing
import GraphqlRequests.Proofs.Schema.Proper
import GraphqlRequests.Proofs.Sdl.Types

/-!
# The notation of references

The notation of a reference says which layers it has and what it refers to, since the grammar of
types reads it back where marks may repeat. It is a type of the schema language where none does.
-/

namespace GraphqlRequests.TypeRef

open Sdl (refTokens)

variable {ν : Type} [Name ν] {ref other : TypeRef (NamedRef ν)}

theorem written_congr (same : ref.map (·.name) = other.map (·.name)) :
    ref.written = other.written := by
  induction ref generalizing other with
  | named type =>
    cases other with
    | named => exact congrArg Name.shown (TypeRef.named.inj same)
    | _ => cases same
  | list item ih =>
    cases other with
    | list => rw [written, ih (TypeRef.list.inj same), written]
    | _ => cases same
  | nonNull inner ih =>
    cases other with
    | nonNull => rw [written, ih (TypeRef.nonNull.inj same), written]
    | _ => cases same

theorem map_ofText_shown (named : Name.Written ref.innermost.name) :
    (ref.map fun type => Name.shown type.name).map Name.ofText = ref.map (·.name) := by
  induction ref with
  | named type => exact congrArg TypeRef.named named.ofText_shown
  | list item ih => exact congrArg TypeRef.list (ih named)
  | nonNull inner ih => exact congrArg TypeRef.nonNull (ih named)

theorem tokens?_written (named : Name.Written ref.innermost.name) : Sdl.tokens? ref.written
    = some (refTokens (ref.map fun type => Name.shown type.name)) :=
  (Document.closes_written named.isName_shown).tokens?

theorem stackedType?_written (named : Name.Written ref.innermost.name) :
    Sdl.stackedType? ref.written = some (ref.map fun type => Name.shown type.name) :=
  Sdl.stackedType?_eq_some.mpr (tokens?_written named)

/-- A reference with a name of the query language is read back from its notation, up to the kind of
the innermost type, by the grammar of types in which marks may repeat. Two such references have the
same notation just where they have the same layers and the same innermost name, and the notation is
a type of the schema language just where no non-null layer stands directly around another. -/
theorem written_unambiguous (ref : TypeRef (NamedRef ν))
    (named : Name.Written ref.innermost.name) :
    Sdl.stackedType? ref.written = some (ref.map fun type => Name.shown type.name) ∧
    (∀ other : TypeRef (NamedRef ν), Name.Written other.innermost.name →
      (ref.written = other.written ↔ ref.map (·.name) = other.map (·.name))) ∧
    ((∃ type, Sdl.type? ref.written = some type) ↔ ref.Proper) := by
  have read := stackedType?_written named
  refine ⟨read, fun other known => ⟨fun same => ?_, written_congr⟩, ?_⟩
  · have again := stackedType?_written known
    rw [← same, read] at again
    rw [← map_ofText_shown named, ← map_ofText_shown known, Option.some.inj again]
  · constructor
    · rintro ⟨type, legal⟩
      obtain ⟨tokens, proper⟩ := Sdl.type?_eq_some.mp legal
      -- The other grammar reads the same type, so that type is the reference.
      obtain rfl := Option.some.inj (read.symm.trans (Sdl.stackedType?_eq_some.mpr tokens))
      exact (proper_map _).mp proper
    · intro proper
      exact ⟨_, Sdl.type?_eq_some.mpr ⟨tokens?_written named, (proper_map _).mpr proper⟩⟩

def crews (kind : TypeKind) : TypeRef (NamedRef String) :=
  .nonNull (.nonNull (.list (.nonNull (.named ⟨kind, "Crew"⟩))))

theorem written_unambiguous_of_crews :
    Name.Written "Crew" ∧
    Sdl.stackedType? "[Crew!]!!" = some (.nonNull (.nonNull (.list (.nonNull (.named "Crew"))))) ∧
    (crews .object).written = (crews .enum).written ∧
    (crews .object).written ≠ (crews .object).nullable.written ∧
    ¬ ∃ type, Sdl.type? "[Crew!]!!" = some type := by
  have named : Name.Written "Crew" := by decide
  have spelled : (crews .object).written = "[Crew!]!!" := by decide
  obtain ⟨read, alone, legal⟩ := written_unambiguous (crews .object) named
  rw [spelled] at read legal
  refine ⟨named, read, (alone (crews .enum) named).mpr rfl, ?_, ?_⟩
  · intro same
    have other := (alone (crews .object).nullable named).mp same
    revert other
    decide
  · intro type
    exact absurd (legal.mp type).1 (by decide)

end GraphqlRequests.TypeRef
