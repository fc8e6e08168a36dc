import GraphqlRequests.Proofs.Outcome
import GraphqlRequests.Proofs.Schema.Lookup
import Mathlib.Data.List.Nodup

/-!
# Schemas that can be put together

The names of the types differ, and each root names an object type. `build` gives exactly such
schemas, and in them a type is found under its own name.
-/

namespace GraphqlRequests.Schema

variable {ν : Type} [DecidableEq ν] [Name ν]

/-- What `build` asks of types and roots. -/
structure Built (schema : Schema ν) : Prop where
  distinct : (schema.types.map fun type => Name.key type.name).Nodup
  roots : ∀ kind name, schema.root? kind = some name → (schema.object? name).isSome

/-! ### Putting a schema together -/

theorem duplicate?_eq_none {seen : List ν} {types : List (NamedType ν)} :
    duplicate? seen types = none ↔
      (types.map fun type => Name.key type.name).Nodup ∧
      ∀ type ∈ types, Name.key type.name ∉ seen := by
  induction types generalizing seen with
  | nil => simp [duplicate?]
  | cons type rest ih =>
    rw [duplicate?]
    split
    · next old =>
      constructor
      · intro none
        cases none
      · rintro ⟨-, fresh⟩
        exact absurd old (fresh type List.mem_cons_self)
    · next fresh =>
      -- The key joins those seen, so the later ones differ from it as they differ from these.
      rw [ih, List.map_cons, List.nodup_cons]
      constructor
      · rintro ⟨distinct, unseen⟩
        refine ⟨⟨?_, distinct⟩, List.forall_mem_cons.mpr ⟨fresh, fun other member old => ?_⟩⟩
        · intro again
          obtain ⟨other, member, same⟩ := List.mem_map.mp again
          exact unseen other member (same ▸ List.mem_cons_self)
        · exact unseen other member (List.mem_cons_of_mem _ old)
      · rintro ⟨⟨first, distinct⟩, unseen⟩
        refine ⟨distinct, fun other member old => ?_⟩
        rcases List.mem_cons.mp old with same | before
        · exact first (List.mem_map.mpr ⟨other, member, same⟩)
        · exact unseen other (List.mem_cons_of_mem _ member) before

theorem checkRoot_ok {types : List (NamedType ν)} {kind : OperationKind} {root : Option ν} :
    checkRoot types kind root = .ok () ↔
      ∀ name, root = some name → (findObject? types name).isSome := by
  cases root with
  | none => simp [checkRoot]
  | some name =>
    rw [checkRoot]
    split <;> simp_all

theorem build_ok {types : List (NamedType ν)} {roots : Roots ν} {schema : Schema ν} :
    build types (some roots.query) roots.mutation roots.subscription = .ok schema ↔
      schema = ⟨types, roots⟩ ∧ schema.Built := by
  constructor
  · intro done
    rw [build] at done
    split at done
    · cases done
    · next distinct =>
      obtain ⟨_, query, done⟩ := bind_ok done
      obtain ⟨_, mutation, done⟩ := bind_ok done
      obtain ⟨_, subscription, done⟩ := bind_ok done
      obtain rfl := Except.ok.inj done
      refine ⟨rfl, (duplicate?_eq_none.mp distinct).1, ?_⟩
      rintro (_ | _ | _) name root
      · exact checkRoot_ok.mp query name root
      · exact checkRoot_ok.mp mutation name root
      · exact checkRoot_ok.mp subscription name root
  · rintro ⟨rfl, built⟩
    have distinct : duplicate? [] types = none :=
      duplicate?_eq_none.mpr ⟨built.distinct, by simp⟩
    have root : ∀ kind, checkRoot types kind (root? ⟨types, roots⟩ kind) = .ok () :=
      fun kind => checkRoot_ok.mpr (built.roots kind)
    have query := root .query
    have mutation := root .mutation
    have subscription := root .subscription
    simp only [root?] at query mutation subscription
    rw [build, distinct]
    simp only [query, mutation, subscription]
    rfl

theorem parts_of_build {types : List (NamedType ν)} {query mutation subscription : Option ν}
    {schema : Schema ν} (done : build types query mutation subscription = .ok schema) :
    schema.Built ∧ schema.types = types ∧ some schema.roots.query = query ∧
      schema.roots.mutation = mutation ∧ schema.roots.subscription = subscription := by
  cases query with
  | none =>
    rw [build] at done
    split at done <;> cases done
  | some root =>
    let roots : Roots ν := ⟨root, mutation, subscription⟩
    have whole : build types (some roots.query) roots.mutation roots.subscription = .ok schema :=
      done
    obtain ⟨rfl, built⟩ := build_ok.mp whole
    exact ⟨built, rfl, rfl, rfl, rfl⟩

theorem built_iff {schema : Schema ν} : schema.Built ↔
    build schema.types (some schema.roots.query) schema.roots.mutation schema.roots.subscription
      = .ok schema := by
  rw [build_ok, eq_self, true_and]

instance (schema : Schema ν) : Decidable schema.Built :=
  decidable_of_iff _ built_iff.symm

/-! ### Look-up -/

theorem find?_eq_some {types : List (NamedType ν)} {name : ν} {type : NamedType ν}
    (distinct : (types.map fun type => Name.key type.name).Nodup) :
    find? types name = some type ↔ type ∈ types ∧ Name.key type.name = Name.key name := by
  constructor
  · intro found
    exact ⟨List.mem_of_find?_eq_some found, by simpa using List.find?_some found⟩
  · rintro ⟨member, same⟩
    rw [find?]
    cases found : types.find? fun other => Name.key other.name = Name.key name with
    | none =>
      have differs := List.find?_eq_none.mp found type member
      simp [same] at differs
    | some other =>
      have named : Name.key other.name = Name.key name := by simpa using List.find?_some found
      rw [List.inj_on_of_nodup_map distinct (List.mem_of_find?_eq_some found) member
        (named.trans same.symm)]

variable {schema : Schema ν}

theorem Built.type?_eq_some (built : schema.Built) {name : ν} {type : NamedType ν} :
    schema.type? name = some type ↔ type ∈ schema.types ∧ Name.key type.name = Name.key name :=
  find?_eq_some built.distinct

theorem object?_of_mem (distinct : (schema.types.map fun type => Name.key type.name).Nodup)
    {type : NamedType ν} {object : ObjectType ν} (member : type ∈ schema.types)
    (whole : type.object? = some object) : schema.object? object.name = some object := by
  rw [← (NamedType.object?_eq_some.mp whole).1]
  exact object?_eq_some.mpr ⟨type, (find?_eq_some distinct).mpr ⟨member, rfl⟩, whole⟩

theorem Built.object?_name (built : schema.Built) {type : NamedType ν} {object : ObjectType ν}
    (member : type ∈ schema.types) (whole : type.object? = some object) :
    schema.object? object.name = some object :=
  object?_of_mem built.distinct member whole

end GraphqlRequests.Schema
