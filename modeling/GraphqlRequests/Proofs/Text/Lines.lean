import GraphqlRequests.Text.Split

/-!
# Joining and splitting lines

Lines that hold no line break are found again in the text that is made of them.
-/

namespace GraphqlRequests.Text

variable {sep : String} {stop : Char} {chars : List Char} {lines others : List String}

theorem join_cons (piece : String) (nonempty : lines ≠ []) :
    join sep (piece :: lines) = piece ++ sep ++ join sep lines := by
  cases lines with
  | nil => exact absurd rfl nonempty
  | cons => rfl

theorem unlines_append (first : lines ≠ []) (second : others ≠ []) :
    unlines (lines ++ others) = unlines lines ++ "\n" ++ unlines others := by
  induction lines with
  | nil => exact absurd rfl first
  | cons line rest ih =>
    by_cases last : rest = []
    · subst last
      exact join_cons line second
    · have joined := ih last
      simp only [unlines, List.cons_append] at joined ⊢
      rw [join_cons line (by simp [last]), join_cons line last, joined]
      simp only [String.append_assoc]

theorem toList_unlines_cons (line : String) (nonempty : lines ≠ []) :
    (unlines (line :: lines)).toList = line.toList ++ '\n' :: (unlines lines).toList := by
  simp [unlines, join_cons line nonempty]

/-- Followed by one more line break, a text of lines has a break after each. -/
theorem toList_unlines (nonempty : lines ≠ []) :
    (unlines lines).toList ++ ['\n'] = lines.flatMap fun line => line.toList ++ ['\n'] := by
  induction lines with
  | nil => exact absurd rfl nonempty
  | cons line rest ih =>
    by_cases last : rest = []
    · subst last
      simp [unlines, join]
    · rw [toList_unlines_cons line last, List.flatMap_cons, ← ih last]
      simp

theorem splitChars_of_not_mem (absent : stop ∉ chars) : splitChars stop chars = [chars] := by
  induction chars with
  | nil => rfl
  | cons c rest ih =>
    obtain ⟨other, later⟩ := List.ne_and_not_mem_of_not_mem_cons absent
    rw [splitChars, if_neg (Ne.symm other), ih later]

theorem splitChars_append (absent : stop ∉ chars) (rest : List Char) :
    splitChars stop (chars ++ stop :: rest) = chars :: splitChars stop rest := by
  induction chars with
  | nil => simp [splitChars]
  | cons c others ih =>
    obtain ⟨other, later⟩ := List.ne_and_not_mem_of_not_mem_cons absent
    rw [List.cons_append, splitChars, if_neg (Ne.symm other), ih later]

theorem mem_of_mem_splitChars {piece : List Char} (listed : piece ∈ splitChars stop chars) :
    ∀ c ∈ piece, c ∈ chars := by
  induction chars generalizing piece with
  | nil => simp_all [splitChars]
  | cons d rest ih =>
    rw [splitChars] at listed
    split at listed
    · rcases List.mem_cons.mp listed with rfl | later
      · simp
      · exact fun c member => List.mem_cons_of_mem _ (ih later c member)
    · split at listed
      · next first others pieces =>
        rw [pieces] at ih
        rcases List.mem_cons.mp listed with rfl | later
        · intro c member
          rcases List.mem_cons.mp member with rfl | inside
          · exact List.mem_cons_self
          · exact List.mem_cons_of_mem _ (ih List.mem_cons_self c inside)
        · exact fun c member => List.mem_cons_of_mem _ (ih (List.mem_cons_of_mem _ later) c member)
      · next none => exact absurd none (splitChars_ne_nil stop rest)

theorem not_mem_of_mem_splitChars {piece : List Char} (listed : piece ∈ splitChars stop chars) :
    stop ∉ piece := by
  induction chars generalizing piece with
  | nil => simp_all [splitChars]
  | cons d rest ih =>
    rw [splitChars] at listed
    split at listed
    · rcases List.mem_cons.mp listed with rfl | later
      · exact List.not_mem_nil
      · exact ih later
    · next other =>
      split at listed
      · next first others pieces =>
        rw [pieces] at ih
        rcases List.mem_cons.mp listed with rfl | later
        · exact List.not_mem_cons_of_ne_of_not_mem (Ne.symm other) (ih List.mem_cons_self)
        · exact ih (List.mem_cons_of_mem _ later)
      · next none => exact absurd none (splitChars_ne_nil stop rest)

theorem splitChars_join (spelled : sep.toList = [stop])
    (plain : ∀ line ∈ lines, stop ∉ line.toList) (nonempty : lines ≠ []) :
    (splitChars stop (join sep lines).toList).map String.ofList = lines := by
  induction lines with
  | nil => exact absurd rfl nonempty
  | cons line rest ih =>
    obtain ⟨here, later⟩ := List.forall_mem_cons.mp plain
    by_cases last : rest = []
    · subst last
      simp [join, splitChars_of_not_mem here]
    · rw [join_cons line last, String.toList_append, String.toList_append, spelled,
        List.append_assoc, List.singleton_append, splitChars_append here, List.map_cons,
        ih later last, String.ofList_toList]

theorem lines_unlines (plain : ∀ line ∈ lines, '\n' ∉ line.toList) (nonempty : lines ≠ []) :
    Text.lines (unlines lines) = lines :=
  splitChars_join rfl plain nonempty

end GraphqlRequests.Text
