import GraphqlRequests.Files
import GraphqlRequests.Proofs.Text.Lines

/-!
# Paths to places

A path leads to a place, and the place has one shortest path. This path has the parts of the place
as its steps, and leads back to it.
-/

namespace GraphqlRequests.Path

variable {absolute : Bool} {place parts : List String} {part path : String}

/-! ### Parts -/

/-- A step that moves, without a slash. -/
def IsPart (part : String) : Prop :=
  stays part = false ∧ '/' ∉ part.toList

theorem isPart_up : IsPart ".." := by
  unfold IsPart
  decide

theorem isPart_of_mem_parts (member : part ∈ Path.parts path) : IsPart part := by
  obtain ⟨step, moves⟩ := List.mem_filter.mp member
  obtain ⟨chars, listed, rfl⟩ := List.mem_map.mp step
  refine ⟨by simpa using moves, ?_⟩
  rw [String.toList_ofList]
  exact Text.not_mem_of_mem_splitChars listed

theorem mem_of_mem_parts (member : part ∈ Path.parts path) : ∀ c ∈ part.toList, c ∈ path.toList := by
  obtain ⟨chars, listed, rfl⟩ := List.mem_map.mp (List.mem_filter.mp member).1
  rw [String.toList_ofList]
  exact Text.mem_of_mem_splitChars listed

theorem IsPart.exists_cons (part? : IsPart part) : ∃ c rest, part.toList = c :: rest ∧ c ≠ '/' := by
  obtain ⟨moves, plain⟩ := part?
  cases chars : part.toList with
  | nil =>
    rw [String.toList_eq_nil_iff.mp chars] at moves
    cases moves
  | cons c rest =>
    rw [chars] at plain
    exact ⟨c, rest, rfl, Ne.symm (List.ne_and_not_mem_of_not_mem_cons plain).1⟩

/-! ### Places -/

/-- A place by its parts, last first. Steps up come before all others, and never from the root. -/
inductive IsPlace (absolute : Bool) : List String → Prop where
  | start : IsPlace absolute []
  | up {place : List String} (relative : absolute = false) (above : IsPlace absolute place)
      (ups : ∀ part ∈ place, part = "..") : IsPlace absolute (".." :: place)
  | down {place : List String} {part : String} (above : IsPlace absolute place)
      (isPart : IsPart part) (other : part ≠ "..") : IsPlace absolute (part :: place)

namespace IsPlace

theorem tail (isPlace : IsPlace absolute (part :: place)) : IsPlace absolute place := by
  cases isPlace with
  | up _ above _ => exact above
  | down above _ _ => exact above

theorem of_append (isPlace : IsPlace absolute (parts ++ place)) : IsPlace absolute place := by
  induction parts with
  | nil => exact isPlace
  | cons part rest ih => exact ih isPlace.tail

theorem forall_isPart (isPlace : IsPlace absolute place) : ∀ part ∈ place, IsPart part := by
  induction isPlace with
  | start => simp
  | up _ _ _ ih => exact List.forall_mem_cons.mpr ⟨isPart_up, ih⟩
  | down _ isPart _ ih => exact List.forall_mem_cons.mpr ⟨isPart, ih⟩

theorem advance (isPlace : IsPlace absolute place) (isPart : IsPart part) :
    IsPlace absolute (Path.advance absolute place part) := by
  unfold Path.advance
  split
  · unfold stepUp
    split
    · split
      · exact .start
      · next relative => exact .up (by simpa using relative) .start (by simp)
    · cases isPlace with
      | up relative above ups =>
        exact .up relative (.up relative above ups) (List.forall_mem_cons.mpr ⟨rfl, ups⟩)
      | down _ _ other => exact absurd rfl other
    · exact isPlace.tail
  · next other => exact .down isPlace isPart other

theorem advance_eq (isPlace : IsPlace absolute (part :: place)) :
    Path.advance absolute place part = part :: place := by
  cases isPlace with
  | up relative above ups =>
    subst relative
    unfold Path.advance
    rw [if_pos rfl]
    cases place with
    | nil => rfl
    | cons first rest =>
      obtain rfl := (List.forall_mem_cons.mp ups).1
      rfl
  | down _ _ other =>
    unfold Path.advance
    rw [if_neg other]

end IsPlace

theorem isPlace_foldl (isPlace : IsPlace absolute place) (all : ∀ part ∈ parts, IsPart part) :
    IsPlace absolute (parts.foldl (Path.advance absolute) place) := by
  induction parts generalizing place with
  | nil => exact isPlace
  | cons part rest ih =>
    obtain ⟨here, later⟩ := List.forall_mem_cons.mp all
    exact ih (isPlace.advance here) later

theorem isPlace_placeParts (path : String) : IsPlace (isAbsolute path) (placeParts path).reverse := by
  unfold placeParts
  rw [List.reverse_reverse]
  exact isPlace_foldl .start fun part member => isPart_of_mem_parts member

/-! ### Shortest paths -/

theorem forall_isPart_placeParts (path : String) : ∀ part ∈ placeParts path, IsPart part :=
  fun part member => (isPlace_placeParts path).forall_isPart part (List.mem_reverse.mpr member)

section Spelled

variable (all : ∀ part ∈ parts, IsPart part) (nonempty : parts ≠ [])
include all nonempty

theorem steps_join : steps (Text.join "/" parts) = parts :=
  Text.splitChars_join rfl (fun part member => (all part member).2) nonempty

theorem steps_spell :
    steps (spell absolute parts) = if absolute then "" :: parts else parts := by
  have joined := steps_join all nonempty
  have slash : ∀ chars, Text.splitChars '/' ('/' :: chars) = [] :: Text.splitChars '/' chars := by
    simp [Text.splitChars]
  unfold steps spell at *
  cases absolute with
  | false => simpa using joined
  | true =>
    have root : ("/" ++ Text.join "/" parts).toList = '/' :: (Text.join "/" parts).toList := by simp
    rw [if_pos rfl, root, slash, List.map_cons, joined]
    rfl

theorem isAbsolute_spell : isAbsolute (spell absolute parts) = absolute := by
  obtain ⟨first, rest, rfl⟩ := List.exists_cons_of_ne_nil nonempty
  obtain ⟨c, others, chars, other⟩ := (all first List.mem_cons_self).exists_cons
  unfold isAbsolute spell
  cases absolute with
  | true => simp
  | false =>
    cases rest with
    | nil => simp [Text.join, chars, other]
    | cons => simp [Text.join, chars, other]

omit nonempty in
theorem filter_stays : parts.filter (!stays ·) = parts :=
  List.filter_eq_self.mpr fun part member => by simp [(all part member).1]

omit nonempty in
theorem parts_spell : Path.parts (spell absolute parts) = parts := by
  by_cases empty : parts = []
  · subst empty
    cases absolute <;> decide
  · unfold Path.parts
    rw [steps_spell all empty]
    cases absolute with
    | false => exact filter_stays all
    | true => exact filter_stays all

theorem spell_ne_empty : spell absolute parts ≠ "" := by
  intro empty
  have found : Path.parts (spell absolute parts) = parts := parts_spell all
  rw [empty] at found
  exact nonempty found.symm

theorem text_spell : text (spell absolute parts) = spell absolute parts := by
  unfold text
  simp only [isAbsolute_spell all nonempty, parts_spell all,
    if_neg (spell_ne_empty all nonempty)]

end Spelled

/-! ### Characters -/

theorem mem_advance {step : String} (member : part ∈ advance absolute place step) :
    part ∈ place ∨ part = step ∨ part = ".." := by
  unfold advance at member
  split at member
  · unfold stepUp at member
    split at member
    · split at member
      · cases member
      · exact .inr (.inr (List.mem_singleton.mp member))
    · exact (List.mem_cons.mp member).elim (fun up => .inr (.inr up)) .inl
    · exact .inl (List.mem_cons_of_mem _ member)
  · exact (List.mem_cons.mp member).elim (fun here => .inr (.inl here)) .inl

theorem mem_foldl_advance (member : part ∈ parts.foldl (advance absolute) place) :
    part ∈ place ∨ part ∈ parts ∨ part = ".." := by
  induction parts generalizing place with
  | nil => exact .inl member
  | cons step rest ih =>
    rcases ih member with before | later | up
    · rcases mem_advance before with old | rfl | up
      · exact .inl old
      · exact .inr (.inl List.mem_cons_self)
      · exact .inr (.inr up)
    · exact .inr (.inl (List.mem_cons_of_mem _ later))
    · exact .inr (.inr up)

theorem isBroken_resolve (fine : isBroken path = false) : isBroken (resolve path) = false := by
  unfold isBroken at *
  simp only [decide_eq_false_iff_not] at *
  have pieces : ∀ part ∈ placeParts path, '\x00' ∉ part.toList := by
    intro part member null
    rcases mem_foldl_advance (List.mem_reverse.mp member) with none | own | rfl
    · cases none
    · exact fine (mem_of_mem_parts own _ null)
    · revert null
      decide
  have joined : '\x00' ∉ (Text.join "/" (placeParts path)).toList := by
    generalize placeParts path = parts at pieces
    induction parts with
    | nil => simp [Text.join]
    | cons part rest ih =>
      obtain ⟨here, later⟩ := List.forall_mem_cons.mp pieces
      by_cases last : rest = []
      · subst last
        simpa [Text.join] using here
      · rw [Text.join_cons part last]
        simpa [here] using ih later
  unfold resolve spell
  split <;> simpa using joined

end GraphqlRequests.Path
