import GraphqlRequests.Proofs.Filter.Kept
import GraphqlRequests.Proofs.Schema.Linked
import Mathlib.Data.List.Duplicate
import Mathlib.Data.List.Perm.Basic

/-!
# What schemas keep through filters

Types and roots make a schema exactly where names differ and roots name object types. Whatever
filters are then applied, types are dropped by their names alone, so neither the order of the filters
nor their repetition counts, and look-ups, operations and the lists by kind stay in step with the
types that are left.
-/

namespace GraphqlRequests

/-! ### Names that filters drop -/

namespace TypeFilter

/-- The name starts with the filter's prefix or ends with its suffix; an empty text is neither. -/
def Matches (filter : TypeFilter) (name : String) : Prop :=
  (∃ text, filter.droppedPrefix = some text ∧ text ≠ "" ∧ text.toList <+: name.toList) ∨
  ∃ text, filter.droppedSuffix = some text ∧ text ≠ "" ∧ text.toList <:+ name.toList

theorem matches?_eq_true {test : List Char → Bool} {given : Option String} :
    matches? test given = true ↔ ∃ text, given = some text ∧ text ≠ "" ∧ test text.toList = true := by
  cases given with
  | none => simp [matches?]
  | some text => simp [matches?]

theorem keeps_eq_true {filter : TypeFilter} {name : String} :
    filter.keeps name = true ↔ ¬filter.Matches name := by
  rw [keeps, Bool.and_eq_true, Bool.not_eq_true', Bool.not_eq_true', Matches, not_or,
    ← Bool.not_eq_true, ← Bool.not_eq_true, matches?_eq_true, matches?_eq_true]
  simp only [List.isPrefixOf_iff_prefix, List.isSuffixOf_iff_suffix]

instance (filter : TypeFilter) (name : String) : Decidable (filter.Matches name) :=
  decidable_of_iff (¬filter.keeps name = true) (by rw [keeps_eq_true, not_not])

variable {schema filtered : Schema String} {filters others : List TypeFilter}

theorem types_applyAll (built : schema.Built) (done : applyAll filters schema = .ok filtered) :
    filtered.types = schema.types.filter fun type =>
      type.name ∈ schema.rootNames ∨ ∀ filter ∈ filters, ¬filter.Matches type.name := by
  rw [(applyAll_ok built done).1]
  refine List.filter_congr fun type _ => ?_
  rw [Bool.eq_iff_iff, Bool.or_eq_true, List.all_eq_true, decide_eq_true_eq]
  simp only [Name.text_string, keeps_eq_true]
  constructor
  · rintro (root | unmatched)
    · simp [Schema.isRoot] at root
      exact .inl root.1
    · exact .inr unmatched
  · rintro (root | unmatched)
    · -- A root without a name is not taken for a root, but no filter matches it either.
      by_cases unnamed : type.name = ""
      · exact .inr fun filter _ => keeps_eq_true.mp (unnamed ▸ keeps_empty filter)
      · exact .inl (by simp [Schema.isRoot, root, unnamed])
    · exact .inr unmatched

/-- Filters of one collection leave one schema, in whatever order and however often they come. -/
theorem applyAll_eq_of_mem_iff (built : schema.Built)
    (same : ∀ filter, filter ∈ others ↔ filter ∈ filters) :
    applyAll others schema = applyAll filters schema := by
  obtain ⟨first, done⟩ := exists_applyAll filters built
  obtain ⟨second, also⟩ := exists_applyAll others built
  have types : second.types = first.types := by
    rw [types_applyAll built done, types_applyAll built also]
    simp only [same]
  have roots : second.roots = first.roots :=
    (roots_applyAll built also).trans (roots_applyAll built done).symm
  rw [done, also]
  congr 1
  obtain ⟨_, _⟩ := first
  obtain ⟨_, _⟩ := second
  exact congr (congrArg Schema.mk types) roots

end TypeFilter

namespace Schema

/-! ### Putting a schema together -/

section Build

variable {types : List (NamedType String)} {query mutation subscription : Option String}

theorem findObject?_isSome {name : String} (distinct : (types.map (·.name)).Nodup) :
    (findObject? types name).isSome ↔ ∃ type ∈ types, type.name = name ∧ type.kind = .object := by
  rw [findObject?, Option.isSome_iff_exists]
  constructor
  · rintro ⟨object, found⟩
    obtain ⟨type, here, whole⟩ := Option.bind_eq_some_iff.mp found
    obtain ⟨member, named⟩ := (find?_eq_some distinct).mp here
    exact ⟨type, member, named, NamedType.object?_isSome.mp (by rw [whole]; rfl)⟩
  · rintro ⟨type, member, named, kind⟩
    obtain ⟨object, whole⟩ := Option.isSome_iff_exists.mp (NamedType.object?_isSome.mpr kind)
    exact ⟨object, Option.bind_eq_some_iff.mpr
      ⟨type, (find?_eq_some distinct).mpr ⟨member, named⟩, whole⟩⟩

theorem duplicate?_eq_some {seen : List String} {name : String}
    (found : duplicate? seen types = some name) :
    name ∈ seen ∧ name ∈ types.map (·.name) ∨ List.Duplicate name (types.map (·.name)) := by
  induction types generalizing seen with
  | nil => cases found
  | cons type rest ih =>
    rw [duplicate?] at found
    split at found
    · next old =>
      obtain rfl := Option.some.inj found
      exact .inl ⟨old, List.mem_cons_self⟩
    · rcases ih found with ⟨before, after⟩ | twice
      · rcases List.mem_cons.mp before with same | before
        · obtain rfl : name = type.name := same
          exact .inr (.cons_mem after)
        · exact .inl ⟨before, List.mem_cons_of_mem _ after⟩
      · exact .inr (twice.duplicate_cons _)

/-- A second type of one name is reported whatever the roots are. -/
theorem build_of_not_nodup (twice : ¬(types.map (·.name)).Nodup) :
    ∃ name, List.Duplicate name (types.map (·.name)) ∧
      build types query mutation subscription = .error (.duplicateType name) := by
  cases found : duplicate? [] types with
  | none => exact absurd (duplicate?_eq_none.mp found).1 twice
  | some name =>
    refine ⟨name, (duplicate?_eq_some found).resolve_left fun old => List.not_mem_nil old.1, ?_⟩
    unfold build
    rw [found]
    rfl

theorem exists_build : (∃ schema, build types query mutation subscription = .ok schema) ↔
    (types.map (·.name)).Nodup ∧ query.isSome ∧
      ∀ root, some root ∈ [query, mutation, subscription] →
        ∃ type ∈ types, type.name = root ∧ type.kind = .object := by
  constructor
  · rintro ⟨schema, done⟩
    obtain ⟨built, rfl, rfl, rfl, rfl⟩ := parts_of_build done
    have distinct : (schema.types.map (·.name)).Nodup := built.distinct
    refine ⟨distinct, rfl, fun root given => (findObject?_isSome distinct).mp ?_⟩
    simp only [List.mem_cons, List.not_mem_nil, or_false] at given
    rcases given with query | mutation | subscription
    · exact built.roots .query root query.symm
    · exact built.roots .mutation root mutation.symm
    · exact built.roots .subscription root subscription.symm
  · rintro ⟨distinct, given, roots⟩
    obtain ⟨root, rfl⟩ := Option.isSome_iff_exists.mp given
    let schema : Schema String := ⟨types, ⟨root, mutation, subscription⟩⟩
    have built : schema.Built := by
      refine ⟨distinct, fun kind name named => ?_⟩
      refine (findObject?_isSome distinct).mpr (roots name ?_)
      rw [← named]
      cases kind <;> simp [schema, root?]
    exact ⟨schema, built_iff.mp built⟩

end Build

/-! ### What look-ups, operations and lists say of the types -/

def kinds : List TypeKind :=
  [.object, .interface, .union, .enum, .scalar, .inputObject]

/-- Look-ups find the types by their names. Operations are the object types that the roots name, the
query first. The lists by kind hold every type but the introspection types once, in order. -/
structure Coherent (schema : Schema String) : Prop where
  type : ∀ name type, schema.type? name = some type ↔ type ∈ schema.types ∧ type.name = name
  object : ∀ name object, schema.object? name = some object ↔
    ∃ type ∈ schema.types, type.name = name ∧ type.object? = some object
  operations : schema.operations.map (fun operation => (operation.kind, operation.type.name))
    = (.query, schema.roots.query) :: (schema.roots.mutation.toList.map (.mutation, ·)
      ++ schema.roots.subscription.toList.map (.subscription, ·))
  declared : ∀ operation ∈ schema.operations,
    schema.object? operation.type.name = some operation.type
  sorted : ∀ kind type, type ∈ schema.ofKind kind ↔
    type ∈ schema.types ∧ type.kind = kind ∧ isInternalName type.name = false
  ordered : ∀ kind, (schema.ofKind kind).Sublist schema.types
  objects : schema.objects.map some = (schema.ofKind .object).map NamedType.object?
  distinct : schema.types.Nodup
  once : (kinds.flatMap schema.ofKind).Perm
    (schema.types.filter fun type => !isInternalName type.name)

variable {schema : Schema String}

theorem perm_flatMap_kinds (types : List (NamedType String)) :
    (kinds.flatMap fun kind => types.filter fun type => type.kind = kind).Perm types := by
  refine List.perm_iff_count.mpr fun type => ?_
  have one : ∀ kind, (types.filter fun other => other.kind = kind).count type
      = if type.kind = kind then types.count type else 0 := by
    intro kind
    split
    · next same => exact List.count_filter (by simpa using same)
    · next other =>
      refine List.count_eq_zero.mpr fun listed => other ?_
      simpa using (List.mem_filter.mp listed).2
  simp only [kinds, List.flatMap_cons, List.flatMap_nil, List.count_append, List.count_nil, one]
  cases type.kind <;> simp

theorem Built.nodup_types (built : schema.Built) : schema.types.Nodup :=
  built.distinct.of_map

namespace Built

variable (built : schema.Built)
include built

theorem operation?_eq {kind : OperationKind} :
    (schema.operation? kind).map (fun operation => (operation.kind, operation.type.name))
      = (schema.root? kind).map (kind, ·) := by
  rw [operation?]
  cases root : schema.root? kind with
  | none => rfl
  | some name =>
    obtain ⟨object, found⟩ := Option.isSome_iff_exists.mp (built.roots kind name root)
    have named : object.name = name := key_of_object? found
    rw [Option.bind_some, found, Option.map_some, Option.map_some, Option.map_some, named]

theorem coherent : schema.Coherent where
  type name type := built.type?_eq_some
  object name object := by
    rw [object?_eq_some]
    constructor
    · rintro ⟨type, found, whole⟩
      obtain ⟨member, named⟩ := built.type?_eq_some.mp found
      exact ⟨type, member, named, whole⟩
    · rintro ⟨type, member, named, whole⟩
      exact ⟨type, built.type?_eq_some.mpr ⟨member, named⟩, whole⟩
  operations := by
    rw [operations, List.map_filterMap]
    simp only [built.operation?_eq, root?]
    cases schema.roots.mutation <;> cases schema.roots.subscription <;> rfl
  declared operation member := by
    obtain ⟨kind, -, made⟩ := List.mem_filterMap.mp member
    obtain ⟨name, -, made⟩ := Option.bind_eq_some_iff.mp made
    obtain ⟨object, found, rfl⟩ := Option.map_eq_some_iff.mp made
    exact Schema.object?_name found
  sorted kind type := mem_ofKind
  ordered kind := List.filter_sublist
  objects := map_objects fun _ _ whole => whole.symm
  distinct := built.nodup_types
  once := by
    have parts : ∀ kind, schema.ofKind kind
        = (schema.types.filter fun type => !isInternalName type.name).filter
          fun type => type.kind = kind := by
      intro kind
      rw [ofKind, List.filter_filter]
      rfl
    rw [funext parts]
    exact perm_flatMap_kinds _

end Built

end Schema

/-! ### Filtered schemas -/

/-- Types and roots make a schema exactly where names differ, there is a query root, and each root
is called as an object type is; a second type of one name is reported before anything about roots.
Filters never fail on a schema. They leave the roots, the operations, and of the other types those
that none of them matches, in their order; so neither the order of the filters nor their repetition
counts. What look-ups and lists say of the types stays true of those that are left. -/
theorem Schema.build_filters_coherent (types : List (NamedType String))
    (query mutation subscription : Option String) :
    ((∃ schema, build types query mutation subscription = .ok schema) ↔
      (types.map (·.name)).Nodup ∧ query.isSome ∧
        ∀ root, some root ∈ [query, mutation, subscription] →
          ∃ type ∈ types, type.name = root ∧ type.kind = .object) ∧
    (¬(types.map (·.name)).Nodup → ∃ name, List.Duplicate name (types.map (·.name)) ∧
      build types query mutation subscription = .error (.duplicateType name)) ∧
    ∀ schema, build types query mutation subscription = .ok schema →
      schema.types = types ∧ some schema.roots.query = query ∧
      schema.roots.mutation = mutation ∧ schema.roots.subscription = subscription ∧
      ∀ filters, ∃ filtered, TypeFilter.applyAll filters schema = .ok filtered ∧
        filtered.types = (types.filter fun type =>
          some type.name ∈ [query, mutation, subscription] ∨
            ∀ filter ∈ filters, ¬filter.Matches type.name) ∧
        (∀ others, (∀ filter, filter ∈ others ↔ filter ∈ filters) →
          TypeFilter.applyAll others schema = .ok filtered) ∧
        filtered.roots = schema.roots ∧ filtered.operations = schema.operations ∧
        filtered.Coherent := by
  refine ⟨exists_build, build_of_not_nodup, fun schema done => ?_⟩
  obtain ⟨built, rfl, rfl, rfl, rfl⟩ := parts_of_build done
  refine ⟨rfl, rfl, rfl, rfl, fun filters => ?_⟩
  obtain ⟨filtered, applied⟩ := TypeFilter.exists_applyAll filters built
  refine ⟨filtered, applied, ?_, fun others same => ?_, TypeFilter.roots_applyAll built applied,
    TypeFilter.operations_applyAll built applied, (TypeFilter.applyAll_ok built applied).2.coherent⟩
  · rw [TypeFilter.types_applyAll built applied]
    refine List.filter_congr fun type _ => decide_eq_decide.mpr (or_congr_left ?_)
    simp only [rootNames, List.mem_cons, List.mem_append, Option.mem_toList, List.not_mem_nil,
      or_false, Option.some.injEq, eq_comm]
  · rw [TypeFilter.applyAll_eq_of_mem_iff built same, applied]

/-! ### A root that a filter matches -/

def journal : List (NamedType String) := [
  { name := "QueryLog", body := .object [] [] },
  { name := "Query", body := .object [] [] },
  { name := "__Level", body := .enum [] },
  { name := "Changelog", body := .scalar }]

namespace Journal

def queries : TypeFilter where
  droppedPrefix := some "Query"

def logs : TypeFilter where
  droppedPrefix := some ""
  droppedSuffix := some "log"

end Journal

open Journal in
theorem Schema.build_filters_coherent_of_journal :
    ∃ schema filtered, build journal (some "Query") none none = .ok schema ∧
      TypeFilter.applyAll [queries, logs] schema = .ok filtered ∧
      filtered.types.map (·.name) = ["Query", "__Level"] ∧
      TypeFilter.applyAll [logs, queries, logs] schema = .ok filtered ∧
      filtered.operations = schema.operations ∧ filtered.Coherent := by
  obtain ⟨builds, -, whole⟩ := Schema.build_filters_coherent journal (some "Query") none none
  have query : ∃ type ∈ journal, type.name = "Query" ∧ type.kind = .object := by decide
  obtain ⟨schema, done⟩ := builds.mpr ⟨by decide, rfl, fun root given => by simp_all⟩
  obtain ⟨-, -, -, -, every⟩ := whole schema done
  obtain ⟨filtered, applied, left, again, -, operations, coherent⟩ := every [queries, logs]
  refine ⟨schema, filtered, done, applied, ?_, again _ ?_, operations, coherent⟩
  · rw [left]
    decide
  · intro filter
    simp [or_comm]

end GraphqlRequests
