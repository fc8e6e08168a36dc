import GraphqlRequests.Proofs.Naming.Distinct
import GraphqlRequests.Proofs.RequestModule.Classes
import Mathlib.Order.Bounds.Basic

/-!
# Telling attributes apart

Attributes are gone through in order, and to the name of each an underscore is added as long as the
name is taken. This ends for every list and all reserved names, and it ends with the least number of
underscores for each attribute.
-/

namespace GraphqlRequests

namespace Naming

/-- Underscores are added to a name, one at a time, until it is not taken. -/
inductive Settles (taken : Set String) : String → String → Prop where
  | free {name} (free : name ∉ taken) : Settles taken name name
  | clash {name result} (clash : name ∈ taken) (further : Settles taken (name ++ "_") result) :
      Settles taken name result

variable {taken : Set String} {name result : String}

theorem underscored_append (name : String) (n : Nat) :
    underscored (name ++ "_") n = underscored name (n + 1) := by
  rw [← String.toList_inj]
  simp [underscored, List.replicate_succ]

theorem Settles.unique {other : String} (first : Settles taken name result)
    (second : Settles taken name other) : result = other := by
  induction first with
  | free free =>
    cases second with
    | free => rfl
    | clash clash => exact absurd clash free
  | clash clash _ ih =>
    cases second with
    | free free => exact absurd clash free
    | clash _ further => exact ih further

/-- The numbers of underscores that free the name. -/
def freeing (taken : Set String) (name : String) : Set Nat :=
  {n | underscored name n ∉ taken}

theorem zero_mem_freeing : 0 ∈ freeing taken name ↔ name ∉ taken := by
  rw [freeing, Set.mem_ofPred_eq, underscored_zero]

theorem succ_mem_freeing {n : Nat} :
    n + 1 ∈ freeing taken name ↔ n ∈ freeing taken (name ++ "_") := by
  rw [freeing, freeing, Set.mem_ofPred_eq, Set.mem_ofPred_eq, underscored_append]

theorem settles_iff : Settles taken name result ↔
    ∃ n, result = underscored name n ∧ IsLeast (freeing taken name) n := by
  constructor
  · intro settles
    induction settles with
    | @free name free =>
      exact ⟨0, (underscored_zero name).symm, zero_mem_freeing.mpr free, fun n _ => Nat.zero_le n⟩
    | @clash name result clash _ ih =>
      obtain ⟨n, shape, free, least⟩ := ih
      rw [underscored_append] at shape
      refine ⟨n + 1, shape, succ_mem_freeing.mpr free, fun m other => ?_⟩
      cases m with
      | zero => exact absurd clash (zero_mem_freeing.mp other)
      | succ m => exact Nat.succ_le_succ (least (succ_mem_freeing.mp other))
  · rintro ⟨n, rfl, free, least⟩
    induction n generalizing name with
    | zero =>
      rw [underscored_zero]
      exact .free (zero_mem_freeing.mp free)
    | succ n ih =>
      have clash : name ∈ taken := by
        by_contra other
        exact Nat.not_succ_le_zero n (least (zero_mem_freeing.mpr other))
      rw [← underscored_append]
      refine .clash clash (ih (succ_mem_freeing.mp free) fun m other => ?_)
      exact Nat.le_of_succ_le_succ (least (succ_mem_freeing.mpr other))

theorem taken_of_lt_freeFrom {taken : List String} {name : String} {n count m : Nat} (from_ : n ≤ m)
    (before : m < freeFrom taken name n count) : underscored name m ∈ taken := by
  fun_induction freeFrom taken name n count with
  | case1 n => omega
  | case2 n count clash ih =>
    rcases Nat.eq_or_lt_of_le from_ with rfl | later
    · exact clash
    · exact ih later before
  | case3 n count free => omega

/-- The search, which is bounded by the number of taken names, ends as the loop does. -/
theorem settles_free (taken : List String) (name : String) :
    Settles {x | x ∈ taken} name (free taken name) := by
  refine settles_iff.mpr ⟨_, rfl, free_notMem taken name, fun m other => ?_⟩
  by_contra before
  exact other (taken_of_lt_freeFrom (Nat.zero_le m) (Nat.lt_of_not_le before))

end Naming

open Naming (Settles underscored freeing)

namespace RequestModule

/-- One attribute after the other gets the name that its own settles with; from then on that name is
taken as well. Nothing else of an attribute changes. -/
inductive Renames : Set String → List Attribute → List Attribute → Prop where
  | done {taken} : Renames taken [] []
  | next {taken a name rest others} (settles : Settles taken a.name name)
      (later : Renames (insert name taken) rest others) :
      Renames taken (a :: rest) ({ a with name } :: others)

variable {taken : Set String} {attributes result : List Attribute}

theorem Renames.unique {other : List Attribute} (first : Renames taken attributes result)
    (second : Renames taken attributes other) : result = other := by
  induction first generalizing other with
  | done => cases second with | done => rfl
  | next settles _ ih =>
    cases second with
    | next also later =>
      obtain rfl := settles.unique also
      rw [ih later]

theorem distinctAttributes_cons (reserved : List String) (a : Attribute) (rest : List Attribute) :
    distinctAttributes reserved (a :: rest) =
      { a with name := Naming.free reserved a.name } ::
        distinctAttributes (Naming.free reserved a.name :: reserved) rest := rfl

theorem renames_distinctAttributes (reserved : List String) (attributes : List Attribute) :
    Renames {x | x ∈ reserved} attributes (distinctAttributes reserved attributes) := by
  induction attributes generalizing reserved with
  | nil => exact .done
  | cons a rest ih =>
    rw [distinctAttributes_cons]
    refine .next (Naming.settles_free reserved a.name) ?_
    have grown : insert (Naming.free reserved a.name) {x | x ∈ reserved}
        = {x | x ∈ Naming.free reserved a.name :: reserved} :=
      Set.ext fun x => List.mem_cons.symm
    rw [grown]
    exact ih _

/-- What is taken when the attribute at a place gets its name: what was from the start, and the names
given before. -/
def takenAt (taken : Set String) (result : List Attribute) (i : Nat) : Set String :=
  {x | x ∈ taken ∨ ∃ a ∈ result.take i, a.name = x}

theorem takenAt_cons (taken : Set String) (a : Attribute) (rest : List Attribute) (i : Nat) :
    takenAt taken (a :: rest) (i + 1) = takenAt (insert a.name taken) rest i := by
  ext x
  simp only [takenAt, Set.mem_ofPred_eq, Set.mem_insert_iff, List.take_succ_cons,
    List.exists_mem_cons_iff]
  tauto

namespace Renames

theorem length_eq (renames : Renames taken attributes result) :
    result.length = attributes.length := by
  induction renames with
  | done => rfl
  | next _ _ ih => rw [List.length_cons, List.length_cons, ih]

theorem settles (renames : Renames taken attributes result) {i : Nat} {a : Attribute}
    (here : attributes[i]? = some a) : ∃ name, result[i]? = some { a with name } ∧
      Settles (takenAt taken result i) a.name name := by
  induction renames generalizing i with
  | done => cases here
  | @next taken b name rest others settles _ ih =>
    cases i with
    | zero =>
      obtain rfl := Option.some.inj here
      refine ⟨name, rfl, ?_⟩
      simpa [takenAt] using settles
    | succ i =>
      rw [takenAt_cons]
      exact ih here

end Renames

/-- Attributes are told apart by one run, which ends. There are as many afterwards, in the same order,
with names that differ from each other and from the reserved ones. Each has its own name with the
least number of underscores that frees it of the reserved names and of those before it, and all else
as it was; one that does not clash is kept. -/
theorem distinctAttributes_least (reserved : List String) (attributes : List Attribute) :
    (∀ result, Renames {x | x ∈ reserved} attributes result ↔
      result = distinctAttributes reserved attributes) ∧
    (distinctAttributes reserved attributes).length = attributes.length ∧
    ((distinctAttributes reserved attributes).map (·.name)).Nodup ∧
    (∀ a ∈ distinctAttributes reserved attributes, a.name ∉ reserved) ∧
    ∀ i a, attributes[i]? = some a → ∃ n,
      (distinctAttributes reserved attributes)[i]? =
        some { a with name := underscored a.name n } ∧
      IsLeast (freeing (takenAt {x | x ∈ reserved} (distinctAttributes reserved attributes) i)
        a.name) n ∧
      (a.name ∉ takenAt {x | x ∈ reserved} (distinctAttributes reserved attributes) i →
        (distinctAttributes reserved attributes)[i]? = some a) := by
  have renames := renames_distinctAttributes reserved attributes
  refine ⟨fun result => ⟨fun other => other.unique renames, fun same => same ▸ renames⟩,
    renames.length_eq, ?_, fun a member => ?_, fun i a here => ?_⟩
  · rw [map_name_distinctAttributes]
    exact Naming.nodup_distinct _ _
  · have listed := List.mem_map_of_mem (f := Attribute.name) member
    rw [map_name_distinctAttributes] at listed
    exact Naming.distinct_notMem _ listed
  · obtain ⟨name, there, settles⟩ := renames.settles here
    obtain ⟨n, rfl, least⟩ := Naming.settles_iff.mp settles
    refine ⟨n, there, least, fun free => ?_⟩
    obtain rfl := Nat.le_zero.mp (least.2 (Naming.zero_mem_freeing.mpr free))
    rwa [Naming.underscored_zero] at there

def documents : List Attribute := [
  ⟨"document", "document", .named "str", .null⟩,
  ⟨"document_", "document_", .named "int", .null⟩,
  ⟨"episode", "episode", .named "int", .null⟩]

theorem distinctAttributes_least_of_documents :
    (distinctAttributes requestMembers documents).map (·.name) =
      ["document_", "document__", "episode"] ∧
    documents[1]? = some ⟨"document_", "document_", .named "int", .null⟩ ∧
    IsLeast (freeing (takenAt {x | x ∈ requestMembers} (distinctAttributes requestMembers documents) 1)
      "document_") 1 := by
  obtain ⟨n, there, least, -⟩ :=
    (distinctAttributes_least requestMembers documents).2.2.2.2 1 _ rfl
  have second : (distinctAttributes requestMembers documents)[1]? =
      some ⟨underscored "document_" 1, "document_", .named "int", .null⟩ := by decide +kernel
  obtain rfl : n = 1 := by
    have same := there.symm.trans second
    simp only [Option.some.injEq, Attribute.mk.injEq] at same
    exact Naming.underscored_injective _ same.1
  exact ⟨by decide +kernel, rfl, least⟩

end RequestModule

end GraphqlRequests
