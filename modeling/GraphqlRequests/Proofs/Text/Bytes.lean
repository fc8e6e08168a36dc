import GraphqlRequests.Text.Bytes

/-!
# Texts read from their bytes

The bytes of a text in UTF-8 give its characters again. As a text of JSON they are also taken for
UTF-8, unless the text starts with a byte order mark or has a null character.
-/

namespace GraphqlRequests.Text

/-! ### Bytes of characters -/

theorem utf8_cons (c : Char) (rest : List Char) : utf8 (c :: rest) = utf8 [c] ++ utf8 rest := by
  simp only [utf8, List.flatMap_cons, List.flatMap_nil, List.append_nil]

/-- The number of bytes depends on how great the character is. -/
theorem utf8_cases (c : Char) :
    (c.toNat < 0x80 ∧ utf8 [c] = [c.toNat]) ∨
    (0x80 ≤ c.toNat ∧ c.toNat < 0x800 ∧
      utf8 [c] = [0xC0 + c.toNat / 0x40, 0x80 + c.toNat % 0x40]) ∨
    (0x800 ≤ c.toNat ∧ c.toNat < 0x10000 ∧ utf8 [c] = [0xE0 + c.toNat / 0x1000,
      0x80 + c.toNat / 0x40 % 0x40, 0x80 + c.toNat % 0x40]) ∨
    (0x10000 ≤ c.toNat ∧ c.toNat < 0x110000 ∧ utf8 [c] = [0xF0 + c.toNat / 0x40000,
      0x80 + c.toNat / 0x1000 % 0x40, 0x80 + c.toNat / 0x40 % 0x40, 0x80 + c.toNat % 0x40]) := by
  have bound : c.toNat < 0x110000 := by
    have valid := c.valid
    simp only [UInt32.isValidChar, Nat.isValidChar] at valid
    change c.val.toNat < _
    omega
  have bytes : utf8 [c] = (String.utf8EncodeChar c).map (·.toNat) := by simp [utf8]
  have same : c.val.toNat = c.toNat := rfl
  rw [bytes, String.utf8EncodeChar]
  simp only [same]
  generalize c.toNat = n at bound
  split
  · refine .inl ⟨by omega, ?_⟩
    simp only [List.map_cons, List.map_nil, UInt8.toNat_ofNat', List.cons.injEq, and_true]
    omega
  split
  · refine .inr (.inl ⟨by omega, by omega, ?_⟩)
    simp only [List.map_cons, List.map_nil, UInt8.toNat_ofNat', List.cons.injEq, and_true]
    omega
  split
  · refine .inr (.inr (.inl ⟨by omega, by omega, ?_⟩))
    simp only [List.map_cons, List.map_nil, UInt8.toNat_ofNat', List.cons.injEq, and_true]
    omega
  · refine .inr (.inr (.inr ⟨by omega, by omega, ?_⟩))
    simp only [List.map_cons, List.map_nil, UInt8.toNat_ofNat', List.cons.injEq, and_true]
    omega

/-! ### Reading UTF-8 -/

namespace Utf8

variable {points : List Nat} {text : Utf8} {n : Nat}

theorem first_pair (few : n < 0x20) :
    first points (0xC0 + n) = some { points, wanted := 1, least := 0x80, begun := n } := by
  unfold first
  rw [if_neg (by omega), if_neg (by omega), if_pos (by omega), Nat.add_sub_cancel_left]

theorem first_triple (few : n < 0x10) :
    first points (0xE0 + n) = some { points, wanted := 2, least := 0x800, begun := n } := by
  unfold first
  rw [if_neg (by omega), if_neg (by omega), if_neg (by omega), if_pos (by omega),
    Nat.add_sub_cancel_left]

theorem first_quadruple (few : n < 8) :
    first points (0xF0 + n) = some { points, wanted := 3, least := 0x10000, begun := n } := by
  unfold first
  rw [if_neg (by omega), if_neg (by omega), if_neg (by omega), if_neg (by omega),
    if_pos (by omega), Nat.add_sub_cancel_left]

theorem step_more (wants : 1 < text.wanted) (few : n < 0x40) : text.step (0x80 + n)
    = some { text with wanted := text.wanted - 1, begun := text.begun * 0x40 + n } := by
  have tail : (decide (0x80 + n < 0x80) || decide (0xC0 ≤ 0x80 + n)) = false := by simp; omega
  unfold step
  rw [if_neg (by omega), tail, if_neg Bool.false_ne_true, Nat.add_sub_cancel_left]
  exact if_pos wants

theorem step_last (wants : text.wanted = 1) (few : n < 0x40)
    (least : text.least ≤ text.begun * 0x40 + n) (most : text.begun * 0x40 + n < 0x110000) :
    text.step (0x80 + n) = some { points := (text.begun * 0x40 + n) :: text.points } := by
  have tail : (decide (0x80 + n < 0x80) || decide (0xC0 ≤ 0x80 + n)) = false := by simp; omega
  unfold step
  rw [if_neg (by omega), tail, if_neg Bool.false_ne_true, Nat.add_sub_cancel_left, wants]
  simp [least, most]

/-- The bytes that a begun code point still wants make it whole. -/
theorem foldlM_tails (tails : List Nat) (wants : text.wanted = tails.length) (some : tails ≠ [])
    (few : ∀ n ∈ tails, n < 0x40)
    (whole : tails.foldl (fun value n => value * 0x40 + n) text.begun = n)
    (least : text.least ≤ n) (most : n < 0x110000) :
    (tails.map (0x80 + ·)).foldlM step text = Option.some { points := n :: text.points } := by
  induction tails generalizing text with
  | nil => exact absurd rfl some
  | cons m rest ih =>
    obtain ⟨here, later⟩ := List.forall_mem_cons.mp few
    rw [List.map_cons, List.foldlM_cons]
    by_cases last : rest = []
    · subst last
      obtain rfl : text.begun * 0x40 + m = n := whole
      rw [step_last wants here least most]
      rfl
    · have more : 1 < text.wanted := by
        have pos := List.length_pos_iff.mpr last
        rw [wants, List.length_cons]
        omega
      rw [step_more more here]
      refine ih ?_ last later whole least
      simp [wants]

/-- The bytes of a character add it to what has been read. -/
theorem foldlM_char (points : List Nat) (c : Char) :
    (utf8 [c]).foldlM step { points } = some { points := c.toNat :: points } := by
  have idle : ∀ byte, step { points } byte = first points byte := fun _ => rfl
  rcases utf8_cases c with
    ⟨small, bytes⟩ | ⟨low, high, bytes⟩ | ⟨low, high, bytes⟩ | ⟨low, high, bytes⟩
  · rw [bytes, List.foldlM_cons, idle, first, if_pos small]
    rfl
  · have whole : c.toNat / 0x40 * 0x40 + c.toNat % 0x40 = c.toNat := by omega
    rw [bytes, List.foldlM_cons, idle, first_pair (by omega)]
    exact foldlM_tails [c.toNat % 0x40] rfl (List.cons_ne_nil _ _) (by simp; omega) whole low
      (by omega)
  · have whole : (c.toNat / 0x1000 * 0x40 + c.toNat / 0x40 % 0x40) * 0x40 + c.toNat % 0x40
        = c.toNat := by omega
    rw [bytes, List.foldlM_cons, idle, first_triple (by omega)]
    exact foldlM_tails [c.toNat / 0x40 % 0x40, c.toNat % 0x40] rfl (List.cons_ne_nil _ _)
      (by simp; omega) whole low (by omega)
  · have whole : ((c.toNat / 0x40000 * 0x40 + c.toNat / 0x1000 % 0x40) * 0x40
        + c.toNat / 0x40 % 0x40) * 0x40 + c.toNat % 0x40 = c.toNat := by omega
    rw [bytes, List.foldlM_cons, idle, first_quadruple (by omega)]
    exact foldlM_tails [c.toNat / 0x1000 % 0x40, c.toNat / 0x40 % 0x40, c.toNat % 0x40] rfl
      (List.cons_ne_nil _ _) (by simp; omega) whole low high

end Utf8

theorem foldlM_utf8 (points : List Nat) (s : List Char) :
    (utf8 s).foldlM Utf8.step { points } = some { points := (s.map (·.toNat)).reverse ++ points } := by
  induction s generalizing points with
  | nil => rfl
  | cons c rest ih =>
    rw [utf8_cons, List.foldlM_append, Utf8.foldlM_char]
    change (utf8 rest).foldlM Utf8.step { points := c.toNat :: points } = _
    rw [ih, List.map_cons, List.reverse_cons, List.append_assoc, List.singleton_append]

theorem fromUtf8_utf8 (s : List Char) : fromUtf8 (utf8 s) = some (s.map (·.toNat)) := by
  unfold fromUtf8
  rw [foldlM_utf8]
  change some ((s.map Char.toNat).reverse ++ []).reverse = _
  rw [List.append_nil, List.reverse_reverse]

/-! ### Texts of JSON -/

theorem zero_notMem_utf8 {s : List Char} (clean : '\x00' ∉ s) : 0 ∉ utf8 s := by
  induction s with
  | nil => exact List.not_mem_nil
  | cons c rest ih =>
    obtain ⟨here, later⟩ := not_or.mp (mt List.mem_cons.mpr clean)
    have positive : c.toNat ≠ 0 := fun zero => here (Char.toNat_inj.mp zero).symm
    rw [utf8_cons, List.mem_append, not_or]
    refine ⟨?_, ih later⟩
    rcases utf8_cases c with ⟨-, bytes⟩ | ⟨-, -, bytes⟩ | ⟨-, -, bytes⟩ | ⟨-, -, bytes⟩ <;>
      simp [bytes] <;> omega

theorem guess_of_zero_notMem {bytes : List Nat} (clean : 0 ∉ bytes) :
    Encoding.guess bytes = .utf8 := by
  unfold Encoding.guess
  split
  · next a b c d rest =>
    simp only [List.mem_cons, not_or] at clean
    rw [if_neg (Ne.symm clean.1), if_neg (Ne.symm clean.2.1)]
  · next a b =>
    simp only [List.mem_cons, not_or] at clean
    rw [if_neg (Ne.symm clean.1), if_neg (Ne.symm clean.2.1)]
  · rfl

theorem head_utf8_lt {c : Char} {rest : List Char} {byte : Nat} {bytes : List Nat}
    (same : utf8 (c :: rest) = byte :: bytes) : byte < 0xF8 := by
  rw [utf8_cons] at same
  rcases utf8_cases c with ⟨_, own⟩ | ⟨_, _, own⟩ | ⟨_, _, own⟩ | ⟨_, _, own⟩ <;>
    rw [own] at same <;> have first := (List.cons.inj same).1 <;> omega

theorem toNat_eq_of_marked {c : Char} {rest : List Char}
    (marked : [0xEF, 0xBB, 0xBF].isPrefixOf (utf8 (c :: rest)) = true) : c.toNat = 0xFEFF := by
  rw [utf8_cons] at marked
  rcases utf8_cases c with ⟨_, own⟩ | ⟨_, _, own⟩ | ⟨_, _, own⟩ | ⟨_, _, own⟩ <;>
    simp [own, List.isPrefixOf] at marked <;> omega

theorem not_marked {s : List Char} (clean : '\x00' ∉ s) (unmarked : s.head? ≠ some '\uFEFF') :
    ∀ mark ∈ Encoding.marks, mark.1.isPrefixOf (utf8 s) = false := by
  cases s with
  | nil => decide
  | cons c rest =>
    have zero := zero_notMem_utf8 clean
    have last : [0xEF, 0xBB, 0xBF].isPrefixOf (utf8 (c :: rest)) = false := by
      refine Bool.eq_false_iff.mpr fun marked => unmarked (congrArg some (Char.toNat_inj.mp ?_))
      exact toNat_eq_of_marked marked
    -- The other marks start with a byte that no character starts with.
    cases bytes : utf8 (c :: rest) with
    | nil => decide
    | cons byte tail =>
      have most := head_utf8_lt bytes
      rw [bytes] at zero last
      have least : 0 ≠ byte := fun same => zero (same ▸ List.mem_cons_self)
      have other : 0xFE ≠ byte ∧ 0xFF ≠ byte := by omega
      have differs : ∀ mark rest, mark ≠ byte → (mark :: rest).isPrefixOf (byte :: tail) = false := by
        intro mark rest other
        rw [List.isPrefixOf_cons_cons, beq_false_of_ne other, Bool.false_and]
      simp [Encoding.marks, last, differs, least, other]

/-- A text of JSON in UTF-8 is read from its bytes, where it has no null character and does not start
with a byte order mark. -/
theorem fromBytes_utf8 {s : List Char} (clean : '\x00' ∉ s) (unmarked : s.head? ≠ some '\uFEFF') :
    fromBytes (utf8 s) = some (s.map (·.toNat)) := by
  have none : Encoding.marks.find? (fun mark => mark.1.isPrefixOf (utf8 s)) = none :=
    List.find?_eq_none.mpr fun mark listed => by simp [not_marked clean unmarked mark listed]
  unfold fromBytes
  rw [none, guess_of_zero_notMem (zero_notMem_utf8 clean)]
  exact fromUtf8_utf8 s

end GraphqlRequests.Text
