import GraphqlRequests.Filter
import GraphqlRequests.Proofs.Schema.Built

/-!
# Filtered schemas

Filters keep the operation roots, and of the other types those that each of them keeps. What is left
can be put together again, with the same operations, and a look-up there finds what it finds in the
whole schema, unless that was dropped.
-/

namespace GraphqlRequests.TypeFilter

variable {ν : Type} [DecidableEq ν] [Name ν]

/-- A type of the schema is dropped if it is no root and a filter does not keep its name. -/
structure Drops (filters : List TypeFilter) (schema : Schema ν) (type : NamedType ν) : Prop where
  declared : type ∈ schema.types
  notRoot : schema.isRoot type = false
  unkept : ∃ filter ∈ filters, filter.keeps (Name.text type.name) = false

variable {filters : List TypeFilter} {schema filtered : Schema ν}

theorem apply_ok {filter : TypeFilter} (done : filter.apply schema = .ok filtered) :
    filtered = ⟨schema.types.filter fun type =>
      schema.isRoot type || filter.keeps (Name.text type.name), schema.roots⟩ ∧ filtered.Built := by
  rw [apply] at done
  split at done
  · exact Schema.build_ok.mp (mapError_ok done)
  · cases done

theorem applyAll_ok (built : schema.Built) (done : applyAll filters schema = .ok filtered) :
    filtered = ⟨schema.types.filter fun type =>
      schema.isRoot type || filters.all (·.keeps (Name.text type.name)), schema.roots⟩ ∧
    filtered.Built := by
  induction filters generalizing schema with
  | nil =>
    obtain rfl := Except.ok.inj done
    exact ⟨by simp, built⟩
  | cons filter rest ih =>
    rw [applyAll, List.foldlM_cons] at done
    obtain ⟨first, here, done⟩ := bind_ok done
    obtain ⟨rfl, builtFirst⟩ := apply_ok here
    obtain ⟨rfl, builtLast⟩ := ih builtFirst done
    refine ⟨?_, builtLast⟩
    simp only [List.filter_filter, List.all_cons, Schema.mk.injEq, and_true]
    -- The first filter leaves the roots, so the others keep the same types as roots.
    apply List.filter_congr
    intro type _
    have sameRoots : Schema.isRoot ⟨schema.types.filter fun type =>
        schema.isRoot type || filter.keeps (Name.text type.name), schema.roots⟩ type
          = schema.isRoot type := rfl
    rw [sameRoots]
    cases schema.isRoot type <;> simp [Bool.and_comm]

section Applied

variable (built : schema.Built) (done : applyAll filters schema = .ok filtered)
include built done

theorem mem_types_applyAll {type : NamedType ν} :
    type ∈ filtered.types ↔ type ∈ schema.types ∧ ¬Drops filters schema type := by
  rw [(applyAll_ok built done).1, List.mem_filter]
  refine and_congr_right fun declared => ?_
  rw [Bool.or_eq_true, List.all_eq_true]
  constructor
  · rintro (root | kept) ⟨-, notRoot, filter, member, unkept⟩
    · rw [root] at notRoot
      cases notRoot
    · rw [kept filter member] at unkept
      cases unkept
  · intro undropped
    by_contra out
    rw [not_or, Bool.not_eq_true, not_forall] at out
    obtain ⟨notRoot, filter, unkept⟩ := out
    rw [Classical.not_imp, Bool.not_eq_true] at unkept
    exact undropped ⟨declared, notRoot, filter, unkept⟩

/-- A look-up finds what it finds in the whole schema, unless that was dropped. -/
theorem type?_applyAll {name : ν} {type : NamedType ν} :
    filtered.type? name = some type ↔
      schema.type? name = some type ∧ ¬Drops filters schema type := by
  rw [(applyAll_ok built done).2.type?_eq_some, built.type?_eq_some, mem_types_applyAll built done]
  exact and_right_comm

theorem roots_applyAll : filtered.roots = schema.roots := by
  rw [(applyAll_ok built done).1]

theorem operations_applyAll : filtered.operations = schema.operations := by
  have sameRoot : ∀ kind, filtered.root? kind = schema.root? kind := by
    rintro (_ | _ | _) <;> rw [Schema.root?, Schema.root?, roots_applyAll built done]
  rw [Schema.operations, Schema.operations]
  refine List.filterMap_congr fun kind _ => ?_
  rw [Schema.operation?, Schema.operation?, sameRoot]
  cases root : schema.root? kind with
  | none => rfl
  | some name =>
    have there := (applyAll_ok built done).2.roots kind name ((sameRoot kind).trans root)
    obtain ⟨object, found⟩ := Option.isSome_iff_exists.mp there
    obtain ⟨type, here, whole⟩ := Schema.object?_eq_some.mp found
    have also : schema.object? name = some object :=
      Schema.object?_eq_some.mpr ⟨type, ((type?_applyAll built done).mp here).1, whole⟩
    rw [Option.bind_some, Option.bind_some, found, also]

end Applied

/-! ### Text names -/

theorem keeps_empty (filter : TypeFilter) : filter.keeps "" = true := by
  obtain ⟨first, last⟩ := filter
  rw [keeps, Bool.and_eq_true, Bool.not_eq_true', Bool.not_eq_true']
  constructor
  · cases first with
    | none => rfl
    | some text => cases chars : text.toList <;> simp_all [matches?]
  · cases last with
    | none => rfl
    | some text => cases chars : text.toList <;> simp_all [matches?, List.isSuffixOf]

variable {whole : Schema String}

theorem exists_apply (filter : TypeFilter) (built : whole.Built) :
    ∃ filtered, filter.apply whole = .ok filtered := by
  have comparable : filter.canCompare whole = true := by simp [canCompare]
  let filtered : Schema String := ⟨whole.types.filter fun type =>
    whole.isRoot type || filter.keeps (Name.text type.name), whole.roots⟩
  have distinct : (filtered.types.map fun type => Name.key type.name).Nodup :=
    built.distinct.sublist (List.filter_sublist.map _)
  refine ⟨filtered, ?_⟩
  rw [apply, if_pos comparable, Schema.filter, Schema.build_ok.mpr ⟨rfl, distinct, ?_⟩]
  · rfl
  intro kind name root
  obtain ⟨object, found⟩ := Option.isSome_iff_exists.mp (built.roots kind name root)
  obtain ⟨type, here, object?⟩ := Schema.object?_eq_some.mp found
  obtain ⟨declared, rfl⟩ := built.type?_eq_some.mp here
  -- The types of roots are kept, and a type without a name by every filter.
  have kept : (whole.isRoot type || filter.keeps type.name) = true := by
    by_cases unnamed : type.name = ""
    · rw [unnamed, keeps_empty, Bool.or_true]
    · have listed : type.name ∈ whole.rootNames := Schema.mem_rootNames_of_root? root
      simp [Schema.isRoot, listed, unnamed]
  have left : filtered.type? type.name = some type :=
    (Schema.find?_eq_some distinct).mpr ⟨List.mem_filter.mpr ⟨declared, kept⟩, rfl⟩
  rw [Option.isSome_iff_exists]
  exact ⟨object, Schema.object?_eq_some.mpr ⟨type, left, object?⟩⟩

theorem exists_applyAll (filters : List TypeFilter) (built : whole.Built) :
    ∃ filtered, applyAll filters whole = .ok filtered := by
  induction filters generalizing whole with
  | nil => exact ⟨whole, rfl⟩
  | cons filter rest ih =>
    obtain ⟨first, here⟩ := exists_apply filter built
    obtain ⟨filtered, done⟩ := ih (apply_ok here).2
    refine ⟨filtered, ?_⟩
    rw [applyAll, List.foldlM_cons, here]
    exact done

end GraphqlRequests.TypeFilter
