import GraphqlRequests.Text.Class

/-!
# Characters of names

Every character that may start a name may also stand further on in it. Beyond the basic characters
the tables show it: both are gone through at once, from one change of membership to the next.
-/

namespace GraphqlRequests.Text

namespace CodePoints

/-- Are all characters of the first set in the second, going through at most `n` changes? The flags
say whether the characters before the next change are inside. -/
def covers : Nat → Bool → CodePoints → Bool → CodePoints → Bool
  | 0, _, _, _, _ => false
  | _ + 1, inside, [], within, [] => !inside || within
  | n + 1, inside, _ :: set, within, [] =>
    (!inside || within) && covers n (!inside) set within []
  | n + 1, inside, [], within, _ :: other =>
    (!inside || within) && covers n inside [] (!within) other
  | n + 1, inside, flip :: set, within, flip' :: other =>
    (!inside || within) &&
      if flip < flip' then covers n (!inside) set within (flip' :: other)
      else if flip' < flip then covers n inside (flip :: set) (!within) other
      else covers n (!inside) set (!within) other

theorem holds_of_covers {n c : Nat} {inside within : Bool} {set other : CodePoints}
    (covered : covers n inside set within other = true) (member : holds inside set c = true) :
    holds within other c = true := by
  fun_induction covers n inside set within other with
  | case1 => cases covered
  | case2 => simp_all [holds]
  | case3 n inside flip set within ih =>
    simp only [Bool.and_eq_true, holds] at covered member ih ⊢
    split at member
    · simpa [member] using covered.1
    · exact ih covered.2 member
  | case4 n inside within flip other ih =>
    simp only [Bool.and_eq_true, holds] at covered member ih ⊢
    split
    · simpa [member] using covered.1
    · exact ih covered.2 member
  | case5 n inside flip set within flip' other first second both =>
    simp only [Bool.and_eq_true, holds] at covered member first second both ⊢
    -- Up to the earlier of the two changes both sets stay as they are, so that one decides.
    obtain ⟨here, later⟩ := covered
    split at later
    · next less =>
      split at member
      · next below =>
        rw [if_pos (Nat.lt_trans below less)]
        simpa [member] using here
      · exact first later member
    split at later
    · next less =>
      split
      · next below =>
        rw [if_pos (Nat.lt_trans below less)] at member
        simpa [member] using here
      · exact second later member
    · next notLess notMore =>
      obtain rfl : flip = flip' := Nat.le_antisymm (Nat.not_lt.mp notMore) (Nat.not_lt.mp notLess)
      split at member
      · next below =>
        rw [if_pos below]
        simpa [member] using here
      · next above =>
        rw [if_neg above]
        exact both later member

end CodePoints

theorem continuesName_of_startsName {c : Char} (starts : startsName c = true) :
    continuesName c = true := by
  have covered : CodePoints.covers 4000 false Table.nameStart false Table.nameContinue = true := by
    decide +kernel
  simp only [startsName, continuesName] at starts ⊢
  split
  · next ascii =>
    rw [if_pos ascii] at starts
    simp only [Char.isAlphanum, Bool.or_eq_true] at starts ⊢
    exact starts.imp_left .inl
  · next beyond =>
    rw [if_neg beyond] at starts
    exact CodePoints.holds_of_covers covered starts

end GraphqlRequests.Text
