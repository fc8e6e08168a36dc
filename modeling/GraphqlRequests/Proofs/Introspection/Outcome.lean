import GraphqlRequests.Load
import GraphqlRequests.Proofs.Outcome
import GraphqlRequests.Proofs.Schema.Built
import Mathlib.Data.List.Forall2
import Mathlib.Data.List.TakeWhile

/-!
# How introspection values fail to load

An object is read as a schema, or it is said what is wrong with it, with one exception: where all
else is in order but a type that is counted has no text for a name, loading breaks off.
-/

namespace GraphqlRequests

namespace Introspection

def Failure.Explained : Failure → Prop
  | .malformed _ | .flawed _ => True
  | .notAnObject | .namelessType => False

theorem explained_failureOf (flaw : Schema.Flaw Json) : (failureOf flaw).Explained := by
  cases flaw with
  | badRoot kind name =>
    rw [failureOf]
    split <;> trivial
  | duplicateType | noQueryRoot => trivial

/-! ### Putting the parts together -/

section Assemble

variable {types : List (NamedType Json)} {query mutation subscription : Option Json}

def counts (type : NamedType Json) : Bool :=
  !isCounted type.kind || Name.isText type.name

theorem assemble_of_usable (usable : ∀ type ∈ types, type.name.isKey = true) :
    assemble types query mutation subscription =
      match Schema.build types query mutation subscription with
      | .error flaw => .error (failureOf flaw)
      | .ok schema => if types.all counts then .ok schema else .error .namelessType := by
  have whole : types.takeWhile (·.name.isKey) = types := List.takeWhile_eq_self_iff.mpr usable
  simp only [assemble, whole, Nat.lt_irrefl, if_false]
  rfl

theorem explained_of_not_usable (unusable : ¬∀ type ∈ types, type.name.isKey = true) :
    ∃ failure, assemble types query mutation subscription = .error failure ∧
      failure.Explained := by
  have shorter : (types.takeWhile (·.name.isKey)).length < types.length := by
    have front := List.takeWhile_prefix (l := types) (·.name.isKey)
    refine Nat.lt_of_le_of_ne front.length_le fun same => unusable ?_
    exact List.takeWhile_eq_self_iff.mp (front.eq_of_length same)
  simp only [assemble, shorter, if_true]
  split <;> exact ⟨_, rfl, trivial⟩

end Assemble

/-! ### Values that describe schemas -/

def listed (value : Json) : Decode (List Json) :=
  need "types" value >>= parts

/-- The value has the types and the roots of the schema, and these can be put together. -/
structure Describes (value : Json) (schema : Schema Json) : Prop where
  contents : contents value = .ok (schema.types, some schema.roots.query, schema.roots.mutation,
    schema.roots.subscription)
  usable : ∀ type ∈ schema.types, type.name.isKey = true
  built : schema.Built

def IsNameless (item : Json) : Prop :=
  ∃ kind name, Introspection.kind item = .ok kind ∧ isCounted kind = true ∧
    need "name" item = .ok name ∧ Name.isText name = false

theorem kind_of_body {name value : Json} {kind : TypeKind} {whole : TypeBody Json}
    (done : body name value kind = .ok whole) : whole.kind = kind := by
  cases kind with
  | scalar =>
    obtain rfl := Except.ok.inj done
    rfl
  | object =>
    iterate 4 obtain ⟨_, _, done⟩ := bind_ok done
    obtain rfl := Except.ok.inj done
    rfl
  | interface =>
    iterate 6 obtain ⟨_, _, done⟩ := bind_ok done
    obtain rfl := Except.ok.inj done
    rfl
  | union | enum | inputObject =>
    iterate 2 obtain ⟨_, _, done⟩ := bind_ok done
    obtain rfl := Except.ok.inj done
    rfl

theorem namedType_eq_ok {item : Json} {type : NamedType Json} (done : namedType item = .ok type) :
    Introspection.kind item = .ok type.kind ∧ need "name" item = .ok type.name := by
  rw [namedType] at done
  obtain ⟨kind, kinded, done⟩ := bind_ok done
  obtain ⟨name, named, done⟩ := bind_ok done
  obtain ⟨whole, made, done⟩ := bind_ok done
  obtain rfl := Except.ok.inj done
  exact ⟨kinded.trans (congrArg Except.ok (kind_of_body made).symm), named⟩

theorem counts_eq_false {item : Json} {type : NamedType Json} (done : namedType item = .ok type) :
    counts type = false ↔ IsNameless item := by
  obtain ⟨kinded, named⟩ := namedType_eq_ok done
  rw [counts, Bool.or_eq_false_iff, Bool.not_eq_false']
  constructor
  · rintro ⟨counted, nameless⟩
    exact ⟨type.kind, type.name, kinded, counted, named, nameless⟩
  · rintro ⟨kind, name, also, counted, here, nameless⟩
    obtain rfl := Except.ok.inj (kinded.symm.trans also)
    obtain rfl := Except.ok.inj (named.symm.trans here)
    exact ⟨counted, nameless⟩

theorem exists_listed {value : Json} {types : List (NamedType Json)}
    {roots : Option Json × Option Json × Option Json} (done : contents value = .ok (types, roots)) :
    ∃ items, listed value = .ok items ∧
      List.Forall₂ (fun item type => namedType item = .ok type) items types := by
  rw [contents] at done
  obtain ⟨found, held, done⟩ := bind_ok done
  obtain ⟨items, apart, done⟩ := bind_ok done
  obtain ⟨read, each, done⟩ := bind_ok done
  obtain ⟨_, _, done⟩ := bind_ok done
  obtain ⟨_, _, done⟩ := bind_ok done
  obtain ⟨_, _, done⟩ := bind_ok done
  obtain ⟨rfl, -⟩ := Prod.mk.inj (Except.ok.inj done)
  refine ⟨items, ?_, forall₂_of_mapM each⟩
  rw [listed, held]
  exact apart

namespace Describes

variable {value : Json} {schema : Schema Json} (describes : Describes value schema)
include describes

theorem all_counts : schema.types.all counts = false ↔
    ∃ items, listed value = .ok items ∧ ∃ item ∈ items, IsNameless item := by
  obtain ⟨items, held, pairs⟩ := exists_listed describes.contents
  have same := exists_mem_iff_of_forall₂ pairs fun _ _ read => (counts_eq_false read).symm
  rw [List.all_eq_false]
  simp only [Bool.not_eq_true, ← same, held, Except.ok.injEq, exists_eq_left']

theorem unique {other : Schema Json} (also : Describes value other) : schema = other := by
  obtain ⟨types, ⟨query, mutation, subscription⟩⟩ := schema
  obtain ⟨types', ⟨query', mutation', subscription'⟩⟩ := other
  have same := Except.ok.inj (describes.contents.symm.trans also.contents)
  simp only [Prod.mk.injEq, Option.some.injEq] at same
  obtain ⟨rfl, rfl, rfl, rfl⟩ := same
  rfl

end Describes

/-- What becomes of an object depends on whether it describes a schema, and on the names of the types
that are counted if it does. -/
theorem decode_object (members : List (String × Json)) :
    (∃ schema, Describes (unwrap (.object members)) schema ∧
      decode (.object members) =
        if schema.types.all counts then .ok schema else .error .namelessType) ∨
    (¬∃ schema, Describes (unwrap (.object members)) schema) ∧
      ∃ failure, decode (.object members) = .error failure ∧ failure.Explained := by
  rw [decode]
  cases read : contents (unwrap (.object members)) with
  | error cause =>
    refine .inr ⟨fun ⟨schema, describes⟩ => ?_, .malformed cause, rfl, trivial⟩
    rw [describes.contents] at read
    cases read
  | ok parts =>
    obtain ⟨types, query, mutation, subscription⟩ := parts
    simp only
    -- Names are checked before the schema is built, so an unusable one decides.
    by_cases usable : ∀ type ∈ types, type.name.isKey = true
    · rw [assemble_of_usable usable]
      cases built : Schema.build types query mutation subscription with
      | error flaw =>
        refine .inr ⟨fun ⟨schema, describes⟩ => ?_, _, rfl, explained_failureOf flaw⟩
        have same := Except.ok.inj (describes.contents.symm.trans read)
        simp only [Prod.mk.injEq] at same
        obtain ⟨rfl, rfl, rfl, rfl⟩ := same
        rw [Schema.built_iff.mp describes.built] at built
        cases built
      | ok schema =>
        obtain ⟨whole, rfl, rfl, rfl, rfl⟩ := Schema.parts_of_build built
        exact .inl ⟨schema, ⟨read, usable, whole⟩, rfl⟩
    · obtain ⟨failure, failed, explained⟩ := explained_of_not_usable usable
      refine .inr ⟨fun ⟨schema, describes⟩ => usable ?_, failure, failed, explained⟩
      have same := Except.ok.inj (describes.contents.symm.trans read)
      simp only [Prod.mk.injEq] at same
      exact same.1 ▸ describes.usable

end Introspection

theorem LoadFailure.message?_introspection {cause : Introspection.Failure}
    (explained : cause.Explained) : (introspection cause).message?.isSome := by
  cases cause with
  | malformed | flawed => rfl
  | notAnObject | namelessType => exact explained.elim

/-- What passes every introspection result, and reads no text. -/
@[reducible]
def Schema.Language.lax : Schema.Language where
  check _ := .pass
  introspect _ := .error .unreadable

open Introspection in
/-- An object loads as a schema where it describes one in which each type that is counted has a text
for a name. Where it describes one with another name for such a type, loading breaks off and nothing
is said. In every other case it is said that the value is malformed, that two of its types have one
name, or that a root is missing or is no object type. -/
theorem Schema.ofIntrospection_fails_explained [Language] (members : List (String × Json)) :
    (∀ schema, ofIntrospection (.object members) false = .ok schema ↔
      Describes (unwrap (.object members)) schema ∧
        ∀ type ∈ schema.types, isCounted type.kind = true → Name.isText type.name = true) ∧
    (ofIntrospection (.object members) false = .error (.introspection .namelessType) ↔
      (∃ schema, Describes (unwrap (.object members)) schema) ∧
        ∃ items, listed (unwrap (.object members)) = .ok items ∧
          ∃ item ∈ items, IsNameless item) ∧
    ∀ failure, ofIntrospection (.object members) false = .error failure →
      failure = .introspection .namelessType ∨
      ∃ cause, failure = .introspection cause ∧ cause.Explained ∧ failure.message?.isSome := by
  have loads : ofIntrospection (.object members) false
      = (decode (.object members)).mapError .introspection := by
    rw [ofIntrospection]
    cases decode (.object members) <;> rfl
  rw [loads]
  rcases decode_object members with
    ⟨schema, describes, decoded⟩ | ⟨none, failure, failed, explained⟩
  · rw [decoded]
    have counted : schema.types.all counts = true ↔
        ∀ type ∈ schema.types, isCounted type.kind = true → Name.isText type.name = true := by
      simp only [List.all_eq_true, counts, Bool.or_eq_true, Bool.not_eq_true', ← Bool.not_eq_true,
        or_iff_not_imp_left, not_not]
    rw [← describes.all_counts]
    cases all : schema.types.all counts with
    | true =>
      refine ⟨fun other => ⟨fun done => ?_, fun ⟨also, _⟩ => ?_⟩, ?_, nofun⟩
      · obtain rfl := Except.ok.inj done
        exact ⟨describes, counted.mp all⟩
      · rw [describes.unique also]
        rfl
      · exact ⟨nofun, nofun⟩
    | false =>
      refine ⟨fun other => ⟨nofun, fun ⟨also, texts⟩ => ?_⟩,
        ⟨fun _ => ⟨⟨schema, describes⟩, rfl⟩, fun _ => rfl⟩, fun failure fails => ?_⟩
      · obtain rfl := describes.unique also
        rw [counted.mpr texts] at all
        cases all
      · exact .inl (Except.error.inj fails).symm
  · rw [failed]
    refine ⟨fun other => ⟨nofun, fun ⟨also, _⟩ => absurd ⟨other, also⟩ none⟩,
      ⟨fun fails => ?_, fun ⟨described, _⟩ => absurd described none⟩, fun other fails => ?_⟩
    · obtain rfl := LoadFailure.introspection.inj (Except.error.inj fails)
      exact explained.elim
    · obtain rfl := Except.error.inj fails
      exact .inr ⟨failure, rfl, explained, LoadFailure.message?_introspection explained⟩

/-! ### A number for a name -/

/-- An enum called `5`; the value is in order but for that. -/
def numberedEnum : List (String × Json) := [
  ("queryType", .object [("name", .string "Query")]),
  ("types", .array [
    .object [("kind", .string "OBJECT"), ("name", .string "Query"), ("fields", .array [])],
    .object [("kind", .string "ENUM"), ("name", .int 5)]])]

open Introspection in
theorem Schema.ofIntrospection_fails_explained_of_numberedEnum :
    (∃ schema, Describes (unwrap (.object numberedEnum)) schema) ∧
      ∃ items, listed (unwrap (.object numberedEnum)) = .ok items ∧
        ∃ item ∈ items, IsNameless item :=
  letI := Language.lax
  (ofIntrospection_fails_explained numberedEnum).2.1.mp (by decide +kernel)

theorem Schema.ofIntrospection_numberedEnum :
    (∀ [Language],
      ofIntrospection (.object numberedEnum) false = .error (.introspection .namelessType)) ∧
      ¬Introspection.Failure.namelessType.Explained ∧
      (LoadFailure.introspection .namelessType).message? = none := by
  have failed : Introspection.decode (.object numberedEnum) = .error .namelessType := by
    decide +kernel
  refine ⟨fun {_} => ?_, id, rfl⟩
  rw [ofIntrospection, failed]
  rfl

end GraphqlRequests
