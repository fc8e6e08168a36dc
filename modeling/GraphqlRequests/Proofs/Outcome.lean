import Mathlib.Data.List.Forall2

/-!
# Outcomes

What is known of the parts of a computation that has succeeded, or of the one in which it failed.
-/

namespace GraphqlRequests

variable {ε δ α β : Type}

theorem bind_ok {first : Except ε α} {next : α → Except ε β} {b : β}
    (done : first >>= next = .ok b) : ∃ a, first = .ok a ∧ next a = .ok b := by
  cases first with
  | error => cases done
  | ok a => exact ⟨a, rfl, done⟩

theorem mapError_ok {first : Except ε α} {change : ε → δ} {a : α}
    (done : first.mapError change = .ok a) : first = .ok a := by
  cases first with
  | error => cases done
  | ok => exact congrArg _ (Except.ok.inj done)

theorem ok_of_toOption {result : Except ε α} {a : α} (found : result.toOption = some a) :
    result = .ok a := by
  cases result with
  | error => cases found
  | ok => exact congrArg _ (Option.some.inj found)

theorem map_eq_of_mapM {γ : Type} {step : α → Except ε β} {view : β → γ} {value : α → γ}
    {list : List α} {result : List β}
    (each : ∀ a ∈ list, ∀ b, step a = .ok b → view b = value a)
    (done : list.mapM step = .ok result) :
    result.map view = list.map value := by
  induction list generalizing result with
  | nil =>
    obtain rfl := Except.ok.inj done
    rfl
  | cons a rest ih =>
    obtain ⟨here, later⟩ := List.forall_mem_cons.mp each
    rw [List.mapM_cons] at done
    obtain ⟨b, first, done⟩ := bind_ok done
    obtain ⟨others, steps, done⟩ := bind_ok done
    obtain rfl := Except.ok.inj done
    rw [List.map_cons, List.map_cons, here b first, ih later steps]

theorem mapM_ok {step : α → Except ε β} {value : α → β} {list : List α} {result : List β}
    (each : ∀ a ∈ list, ∀ b, step a = .ok b → b = value a) (done : list.mapM step = .ok result) :
    result = list.map value := by
  rw [← List.map_id result]
  exact map_eq_of_mapM each done

theorem exists_of_mem_forall₂ {related : α → β → Prop} {list : List α} {result : List β}
    (both : List.Forall₂ related list result) : ∀ b ∈ result, ∃ a ∈ list, related a b := by
  induction both with
  | nil => simp
  | cons here _ ih =>
    refine List.forall_mem_cons.mpr ⟨⟨_, List.mem_cons_self, here⟩, fun b member => ?_⟩
    obtain ⟨a, listed, holds⟩ := ih b member
    exact ⟨a, List.mem_cons_of_mem _ listed, holds⟩

theorem exists_mem_iff_of_forall₂ {related : α → β → Prop} {p : α → Prop} {q : β → Prop}
    {list : List α} {others : List β} (pairs : List.Forall₂ related list others)
    (each : ∀ a b, related a b → (p a ↔ q b)) : (∃ a ∈ list, p a) ↔ ∃ b ∈ others, q b := by
  induction pairs with
  | nil => simp
  | cons here _ ih => simp only [List.exists_mem_cons_iff, each _ _ here, ih]

theorem forall_mem_iff_of_forall₂ {related : α → β → Prop} {p : α → Prop} {q : β → Prop}
    {list : List α} {others : List β} (pairs : List.Forall₂ related list others)
    (each : ∀ a b, related a b → (p a ↔ q b)) : (∀ a ∈ list, p a) ↔ ∀ b ∈ others, q b := by
  induction pairs with
  | nil => simp
  | cons here _ ih => simp only [List.forall_mem_cons, each _ _ here, ih]

theorem forall₂_of_mapM {step : α → Except ε β} {list : List α} {result : List β}
    (done : list.mapM step = .ok result) :
    List.Forall₂ (fun a b => step a = .ok b) list result := by
  induction list generalizing result with
  | nil =>
    obtain rfl := Except.ok.inj done
    exact .nil
  | cons a rest ih =>
    rw [List.mapM_cons] at done
    obtain ⟨b, here, done⟩ := bind_ok done
    obtain ⟨others, later, done⟩ := bind_ok done
    obtain rfl := Except.ok.inj done
    exact .cons here (ih later)

theorem exists_ok_of_mapM {step : α → Except ε β} {list : List α} {result : List β}
    (done : list.mapM step = .ok result) : ∀ a ∈ list, ∃ b, step a = .ok b := by
  induction list generalizing result with
  | nil => simp
  | cons a rest ih =>
    rw [List.mapM_cons] at done
    obtain ⟨b, first, done⟩ := bind_ok done
    obtain ⟨others, steps, -⟩ := bind_ok done
    exact List.forall_mem_cons.mpr ⟨⟨b, first⟩, ih steps⟩

theorem exists_of_mem_mapM {step : α → Except ε β} {list : List α} {result : List β}
    (done : list.mapM step = .ok result) : ∀ b ∈ result, ∃ a ∈ list, step a = .ok b :=
  exists_of_mem_forall₂ (forall₂_of_mapM done)

theorem bind_error {first : Except ε α} {next : α → Except ε β} {e : ε}
    (failed : first >>= next = .error e) :
    first = .error e ∨ ∃ a, first = .ok a ∧ next a = .error e := by
  cases first with
  | error => exact .inl (congrArg _ (Except.error.inj failed))
  | ok a => exact .inr ⟨a, rfl, failed⟩

theorem mapError_error {first : Except ε α} {change : ε → δ} {d : δ}
    (failed : first.mapError change = .error d) : ∃ e, first = .error e ∧ change e = d := by
  cases first with
  | error e => exact ⟨e, rfl, Except.error.inj failed⟩
  | ok => cases failed

theorem exists_map_eq {f : α → β} {P : α → Prop} {values : List β}
    (each : ∀ b ∈ values, ∃ a, P a ∧ f a = b) :
    ∃ list : List α, list.map f = values ∧ ∀ a ∈ list, P a := by
  induction values with
  | nil => exact ⟨[], rfl, by simp⟩
  | cons b rest ih =>
    obtain ⟨⟨a, holds, rfl⟩, later⟩ := List.forall_mem_cons.mp each
    obtain ⟨list, rfl, all⟩ := ih later
    exact ⟨a :: list, rfl, List.forall_mem_cons.mpr ⟨holds, all⟩⟩

theorem exists_mapM_some_iff {f : α → Option β} {list : List α} :
    (∃ result, list.mapM f = some result) ↔ ∀ a ∈ list, (f a).isSome = true := by
  induction list with
  | nil => simp
  | cons a rest ih =>
    rw [List.forall_mem_cons, ← ih, List.mapM_cons]
    cases f a <;> cases rest.mapM f <;> simp

section Steps

variable {step other : α → Except ε β} {list : List α}

theorem exists_mapM_ok (each : ∀ a ∈ list, ∃ b, step a = .ok b) :
    ∃ result, list.mapM step = .ok result := by
  induction list with
  | nil => exact ⟨[], rfl⟩
  | cons a rest ih =>
    obtain ⟨⟨b, here⟩, later⟩ := List.forall_mem_cons.mp each
    obtain ⟨others, steps⟩ := ih later
    exact ⟨b :: others, by rw [List.mapM_cons, here, steps]; rfl⟩

theorem mapM_eq_ok {value : α → β} (each : ∀ a ∈ list, step a = .ok (value a)) :
    list.mapM step = .ok (list.map value) := by
  obtain ⟨result, done⟩ := exists_mapM_ok fun a member => ⟨value a, each a member⟩
  rw [done, mapM_ok (fun a member b first => ?_) done]
  rw [each a member] at first
  exact (Except.ok.inj first).symm

theorem mapM_error {e : ε} (failed : list.mapM step = .error e) :
    ∃ a ∈ list, step a = .error e := by
  induction list with
  | nil => cases failed
  | cons a rest ih =>
    rw [List.mapM_cons] at failed
    rcases bind_error failed with here | ⟨b, -, failed⟩
    · exact ⟨a, List.mem_cons_self, here⟩
    rcases bind_error failed with later | ⟨others, -, failed⟩
    · obtain ⟨a, member, here⟩ := ih later
      exact ⟨a, List.mem_cons_of_mem _ member, here⟩
    · cases failed

theorem mapM_congr (same : ∀ a ∈ list, step a = other a) : list.mapM step = list.mapM other := by
  induction list with
  | nil => rfl
  | cons a rest ih =>
    obtain ⟨here, later⟩ := List.forall_mem_cons.mp same
    rw [List.mapM_cons, List.mapM_cons, here, ih later]

end Steps

end GraphqlRequests
