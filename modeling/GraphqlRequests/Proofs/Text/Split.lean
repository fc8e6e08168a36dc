import GraphqlRequests.Text.Split
import Mathlib.Data.String.Basic

/-!
# Normalized line breaks and sorted texts

Texts are normalized part by part, but for parts that cut a line break in two. Where there is no
carriage return there is nothing to do. Sorted texts ascend, so that none occurs twice.
-/

namespace GraphqlRequests.Text

/-! ### Line breaks -/

variable {chars others : List Char}

theorem normalizeBreaks_append (apart : chars.getLast? ≠ some '\r' ∨ others.head? ≠ some '\n') :
    normalizeBreaks (chars ++ others) = normalizeBreaks chars ++ normalizeBreaks others := by
  fun_induction normalizeBreaks chars with
  | case1 rest ih =>
    rw [List.cons_append, List.cons_append, normalizeBreaks, ih, List.cons_append]
    cases rest with
    | nil => exact .inl (by simp)
    | cons => simpa using apart
  | case2 rest other ih =>
    rw [List.cons_append, normalizeBreaks, ih, List.cons_append]
    · cases rest with
      | nil => exact .inl (by simp)
      | cons => simpa using apart
    · intro left same
      cases rest with
      | nil => simp_all
      | cons c rest => exact other rest (by rw [(List.cons.inj same).1])
  | case3 c rest twoBreaks oneBreak ih =>
    rw [List.cons_append, normalizeBreaks, ih, List.cons_append]
    · cases rest with
      | nil => exact .inl (by simp_all)
      | cons => simpa using apart
    · exact fun _ same _ => oneBreak same
    · exact oneBreak
  | case4 => rfl

theorem getLast?_normalizeBreaks (ends : chars.getLast? = some '\n') :
    (normalizeBreaks chars).getLast? = some '\n' := by
  fun_induction normalizeBreaks chars with
  | case1 rest ih | case2 rest _ ih | case3 c rest _ _ ih =>
    cases rest with
    | nil => simp_all [normalizeBreaks]
    | cons => 
      have later := ih (by simpa using ends)
      rw [List.getLast?_cons, later]
      rfl
  | case4 => cases ends

theorem exists_normalizeBreaks_cons (c : Char) (rest : List Char) :
    ∃ d others, normalizeBreaks (c :: rest) = d :: others := by
  unfold normalizeBreaks
  split
  · exact ⟨_, _, rfl⟩
  · exact ⟨_, _, rfl⟩
  · exact ⟨_, _, rfl⟩
  · next same => cases same

theorem getLast?_normalizeBreaks_iff {c : Char} (other : c ≠ '\n') (carriage : c ≠ '\r') :
    (normalizeBreaks chars).getLast? = some c ↔ chars.getLast? = some c := by
  fun_induction normalizeBreaks chars with
  | case1 rest ih | case2 rest _ ih | case3 d rest _ _ ih =>
    cases rest with
    | nil => simp [normalizeBreaks, other.symm, carriage.symm]
    | cons a left =>
      obtain ⟨b, others, first⟩ := exists_normalizeBreaks_cons a left
      rw [first] at ih ⊢
      simpa only [List.getLast?_cons_cons] using ih
  | case4 => rfl

theorem exists_of_normalizeBreaks_eq_cons {c : Char} (other : c ≠ '\n')
    (same : normalizeBreaks chars = c :: others) :
    ∃ rest, chars = c :: rest ∧ normalizeBreaks rest = others := by
  unfold normalizeBreaks at same
  split at same
  · exact absurd (List.cons.inj same).1.symm other
  · exact absurd (List.cons.inj same).1.symm other
  · obtain ⟨rfl, rfl⟩ := List.cons.inj same
    exact ⟨_, rfl, rfl⟩
  · cases same

theorem carriage_notMem_normalizeBreaks (chars : List Char) : '\r' ∉ normalizeBreaks chars := by
  fun_induction normalizeBreaks chars with
  | case1 | case2 => simpa
  | case3 c rest _ carriage ih => simpa [ih] using fun same => carriage same.symm
  | case4 => simp

theorem normalizeBreaks_eq_self (plain : '\r' ∉ chars) : normalizeBreaks chars = chars := by
  fun_induction normalizeBreaks chars with
  | case1 | case2 => simp at plain
  | case3 c rest _ _ ih => rw [ih fun member => plain (List.mem_cons_of_mem _ member)]
  | case4 => rfl

/-! ### Sorted texts -/

theorem pairwise_insertSorted (s : String) {texts : List String}
    (ascending : texts.Pairwise (· < ·)) : (insertSorted s texts).Pairwise (· < ·) := by
  induction texts with
  | nil => exact List.pairwise_singleton _ _
  | cons t rest ih =>
    obtain ⟨first, later⟩ := List.pairwise_cons.mp ascending
    rw [insertSorted]
    split
    · next before =>
      refine List.pairwise_cons.mpr ⟨?_, ascending⟩
      intro u member
      rcases List.mem_cons.mp member with rfl | inside
      · exact before
      · exact lt_trans before (first u inside)
    split
    · exact ascending
    · next after other =>
      refine List.pairwise_cons.mpr ⟨?_, ih later⟩
      intro u member
      rcases (mem_insertSorted s u rest).mp member with rfl | inside
      · exact lt_of_le_of_ne (not_lt.mp after) (Ne.symm other)
      · exact first u inside

theorem pairwise_sorted (texts : List String) : (sorted texts).Pairwise (· < ·) := by
  induction texts with
  | nil => exact .nil
  | cons s rest ih => exact pairwise_insertSorted s ih

theorem nodup_sorted (texts : List String) : (sorted texts).Nodup :=
  (pairwise_sorted texts).imp ne_of_lt

end GraphqlRequests.Text
