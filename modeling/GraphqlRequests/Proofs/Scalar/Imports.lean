import GraphqlRequests.Config
import Mathlib.Data.List.Basic

/-!
# Imports of scalars

Where the annotation for a scalar has a dot, what stands before it is the alias of the module that
the mapping imports. This holds of all mappings that a configuration makes.
-/

namespace GraphqlRequests

namespace ScalarMapping

theorem dot_not_mem_splitPath (path : List Char) : '.' ∉ (splitPath path).2 := by
  induction path with
  | nil => exact List.not_mem_nil
  | cons c rest ih =>
    rw [splitPath]
    split
    · next before name split =>
      rwa [split] at ih
    · next name split =>
      rw [split] at ih
      by_cases dot : c = '.'
      · rwa [if_pos dot]
      · rw [if_neg dot]
        exact List.not_mem_cons_of_ne_of_not_mem (Ne.symm dot) ih

theorem dot_not_mem_moduleAlias (path : String) : '.' ∉ (moduleAlias path).toList := by
  rw [moduleAlias, String.toList_ofList, List.mem_cons, not_or, List.mem_map]
  refine ⟨by decide, ?_⟩
  rintro ⟨c, -, same⟩
  split at same
  · cases same
  · next other => exact other same

/-- What stands before a dot in the annotation is the alias of the module that is imported. -/
def Imported (mapping : ScalarMapping) : Prop :=
  ∀ before name, mapping.typeText = before ++ "." ++ name →
    ∃ source, mapping.source = some source ∧ moduleAlias source = before

theorem imported_of_plain {mapping : ScalarMapping} (plain : '.' ∉ mapping.typeText.toList) :
    mapping.Imported := by
  intro before name dotted
  rw [dotted] at plain
  simp at plain

theorem imported_ofPath (path : String) : (ofPath path).Imported := by
  have plain := dot_not_mem_splitPath path.toList
  rw [ofPath]
  split
  · next c rest last split =>
    rw [split] at plain
    intro before name dotted
    refine ⟨_, rfl, String.toList_injective ?_⟩
    -- Neither the alias nor the name holds a dot, so there is one way only to split at a dot.
    have chars := congrArg String.toList dotted
    simp only [String.toList_append, String.toList_ofList, List.append_assoc] at chars
    exact ((List.append_cons_inj_of_notMem (dot_not_mem_moduleAlias _) plain).mp chars).1
  · next last _ split =>
    rw [split] at plain
    exact imported_of_plain (by simpa using plain)

end ScalarMapping

namespace ScalarRegistry

theorem imported_default : ∀ e ∈ default.mappings, e.2.Imported := by
  intro e member
  rcases List.mem_append.mp member with builtin | common
  · obtain ⟨s, listed, rfl⟩ := List.mem_map.mp builtin
    refine ScalarMapping.imported_of_plain ?_
    revert s
    decide
  · obtain ⟨s, -, rfl⟩ := List.mem_map.mp common
    exact ScalarMapping.imported_ofPath s.2

theorem forall_foldl_register {holds : ScalarMapping → Prop} {paths : List (String × String)}
    (configured : ∀ path ∈ paths, holds (.ofPath path.2)) {registry : ScalarRegistry}
    (known : ∀ e ∈ registry.mappings, holds e.2) :
    ∀ e ∈ (paths.foldl (fun registry s => registry.register s.1 (.ofPath s.2)) registry).mappings,
      holds e.2 := by
  induction paths generalizing registry with
  | nil => exact known
  | cons path rest ih =>
    obtain ⟨here, later⟩ := List.forall_mem_cons.mp configured
    exact ih later (List.forall_mem_cons.mpr ⟨here, known⟩)

end ScalarRegistry

namespace Config

theorem forall_mapping {holds : ScalarMapping → Prop} (config : Config)
    (known : ∀ e ∈ ScalarRegistry.default.mappings, holds e.2) (fallback : holds .fallback)
    (configured : ∀ path ∈ config.scalars, holds (.ofPath path.2)) (name : String) :
    holds (config.registry.mapping name) := by
  have all := ScalarRegistry.forall_foldl_register configured known
  rw [ScalarRegistry.mapping]
  cases found : config.registry.get? name with
  | none => exact fallback
  | some mapping =>
    obtain ⟨before, after, split, -⟩ := List.lookup_eq_some_iff.mp found
    refine all (name, mapping) ?_
    rw [← ScalarRegistry.ofPaths, ← Config.registry, split]
    exact List.mem_append_right _ List.mem_cons_self

theorem imported_mapping (config : Config) (name : String) :
    (config.registry.mapping name).Imported :=
  config.forall_mapping ScalarRegistry.imported_default (ScalarMapping.imported_ofPath "typing.Any")
    (fun path _ => ScalarMapping.imported_ofPath path.2) name

end Config

end GraphqlRequests
