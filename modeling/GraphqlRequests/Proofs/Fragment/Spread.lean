import GraphqlRequests.Proofs.Document.Lexing
import GraphqlRequests.Proofs.Text.Lines
import Mathlib

/-!
# Spreads in the text of a fragment

A fragment's text spreads a key, as a word after three dots, exactly where the fragment holds a
spread of this key. Keys may start like other keys.
-/

namespace GraphqlRequests.Fragment

variable {marker line rest : List Char}

/-! ### Line by line -/

theorem isPrefixOf_append_break (unbroken : '\n' ∉ marker) (line rest : List Char) :
    marker.isPrefixOf (line ++ '\n' :: rest) = marker.isPrefixOf line := by
  induction marker generalizing line with
  | nil => simp
  | cons c others ih =>
    obtain ⟨other, later⟩ := List.ne_and_not_mem_of_not_mem_cons unbroken
    cases line with
    | nil => simp [List.isPrefixOf, Ne.symm other]
    | cons d line => simp [List.isPrefixOf, ih later line]

theorem endsWord_append_break (line rest : List Char) :
    endsWord (line ++ '\n' :: rest) = endsWord line := by
  cases line with
  | nil => rfl
  | cons => rfl

theorem startsWith_append_break (unbroken : '\n' ∉ marker) (line rest : List Char) :
    startsWith marker (line ++ '\n' :: rest) = startsWith marker line := by
  rw [startsWith, startsWith, isPrefixOf_append_break unbroken]
  cases starts : marker.isPrefixOf line with
  | false => rfl
  | true =>
    have fits := (List.isPrefixOf_iff_prefix.mp starts).length_le
    rw [List.drop_append_of_le_length fits, endsWord_append_break]

theorem occurs_append_break (unbroken : '\n' ∉ marker) (given : marker ≠ [])
    (line rest : List Char) :
    occurs marker (line ++ '\n' :: rest) = (occurs marker line || occurs marker rest) := by
  obtain ⟨first, others, rfl⟩ := List.exists_cons_of_ne_nil given
  induction line with
  | nil =>
    have starts := startsWith_append_break unbroken [] rest
    simp only [List.nil_append] at starts ⊢
    rw [occurs, occurs, starts]
  | cons c line ih =>
    rw [List.cons_append, occurs, occurs, ih, ← List.cons_append,
      startsWith_append_break unbroken, Bool.or_assoc]

theorem occurs_unlines (unbroken : '\n' ∉ marker) (given : marker ≠ []) {lines : List String}
    (nonempty : lines ≠ []) :
    occurs marker (Text.unlines lines).toList
      = lines.any fun line => occurs marker line.toList := by
  induction lines with
  | nil => exact absurd rfl nonempty
  | cons line rest ih =>
    by_cases last : rest = []
    · subst last
      simp [Text.unlines, Text.join]
    · rw [Text.toList_unlines_cons line last, occurs_append_break unbroken given, ih last,
        List.any_cons]

/-! ### One line -/

variable {key other : String}

theorem toList_spread (key : String) : (spread key).toList = '.' :: '.' :: '.' :: key.toList := by
  simp [spread]

theorem occurs_append_of_no_dot (plain : '.' ∉ line) (rest : List Char) :
    occurs (spread key).toList (line ++ rest) = occurs (spread key).toList rest := by
  rw [toList_spread]
  induction line with
  | nil => rfl
  | cons c line ih =>
    obtain ⟨other, later⟩ := List.ne_and_not_mem_of_not_mem_cons plain
    rw [List.cons_append, occurs, ih later]
    simp [startsWith, List.isPrefixOf, other]

theorem occurs_of_no_dot (plain : '.' ∉ line) : occurs (spread key).toList line = false := by
  rw [← List.append_nil line, occurs_append_of_no_dot plain, toList_spread]
  rfl

theorem isWord_of_continuesName {c : Char} (continues : Sdl.continuesName c = true) :
    Text.isWord c = true := by
  have ascii : c.toNat < 128 := by
    simp only [Sdl.continuesName, Char.isAlphanum, Char.isAlpha, Char.isUpper, Char.isLower,
      Char.isDigit, Bool.or_eq_true, Bool.and_eq_true, decide_eq_true_eq, UInt32.le_iff_toNat_le,
      ge_iff_le] at continues
    rcases continues with ((⟨_, small⟩ | ⟨_, small⟩) | ⟨_, small⟩) | rfl
    all_goals first | decide | exact Nat.lt_of_le_of_lt small (by decide)
  rwa [Text.isWord_of_ascii c ascii]

/-- In a text that is one word only the whole text ends with a word. -/
theorem startsWith_of_word {word : List Char} (whole : ∀ c ∈ word, Text.isWord c = true) :
    startsWith marker word = decide (marker = word) := by
  rw [startsWith, Bool.eq_iff_iff, Bool.and_eq_true, List.isPrefixOf_iff_prefix, decide_eq_true_eq]
  constructor
  · rintro ⟨⟨rest, rfl⟩, ends⟩
    cases rest with
    | nil => simp
    | cons c rest => simp [endsWord, whole c (by simp)] at ends
  · rintro rfl
    simp [endsWord]

theorem startsWith_cons (c : Char) (marker text : List Char) :
    startsWith (c :: marker) (c :: text) = startsWith marker text := by
  simp [startsWith, List.isPrefixOf]

/-- The spread of a key only spreads this key, even if others start like it. -/
theorem occurs_spread (own : Sdl.isName other.toList = true) :
    occurs (spread key).toList (spread other).toList = decide (key = other) := by
  have plain : '.' ∉ other.toList := Document.not_mem_of_isName own rfl
  have word : ∀ c ∈ other.toList, Text.isWord c = true := fun c member =>
    isWord_of_continuesName (Sdl.continuesName_of_isName own c member)
  have later : occurs (spread key).toList other.toList = false := occurs_of_no_dot plain
  -- After the first dot too few dots are left, and the name that follows holds none.
  have shifted : ∀ chars, startsWith ('.' :: chars) other.toList = false := by
    intro chars
    rw [startsWith_of_word word, decide_eq_false_iff_not]
    exact fun same => plain (by rw [← same]; exact List.mem_cons_self)
  rw [toList_spread] at later ⊢
  rw [toList_spread, occurs, occurs, occurs, later]
  simp only [startsWith_cons, shifted, startsWith_of_word word, String.toList_inj, Bool.or_false]

/-! ### Fragments -/

open Document (Item Definition Named itemLines)

theorem any_occurs_indent (key : String) (lines : List String) :
    (lines.map (Selection.indent ++ ·)).any (fun line => occurs (spread key).toList line.toList)
      = lines.any fun line => occurs (spread key).toList line.toList := by
  have plain : '.' ∉ Selection.indent.toList := by decide
  simp only [List.any_map, Function.comp_def, String.toList_append, occurs_append_of_no_dot plain]

theorem any_occurs_itemLines (key : String) {items : List Item} (named : Named items) :
    (itemLines items).any (fun line => occurs (spread key).toList line.toList)
      = decide (key ∈ Document.spreads items) := by
  induction named with
  | nil => simp [itemLines, Document.spreads]
  | leaf name _ ih =>
    have plain := Document.not_mem_of_isName name (c := '.') rfl
    simp only [itemLines, List.any_cons, occurs_of_no_dot plain, ih, Document.spreads]
    rfl
  | @nested name _ _ own _ _ inside ih =>
    have plain : '.' ∉ (name ++ " \x7b").toList := by
      simpa using Document.not_mem_of_isName own (c := '.') rfl
    have close : '.' ∉ "\x7d".toList := by decide
    simp only [itemLines, List.any_cons, List.any_append, any_occurs_indent, occurs_of_no_dot plain,
      occurs_of_no_dot close, inside, ih, Document.spreads, List.mem_append, Bool.decide_or,
      Bool.false_or]
  | spread own _ _ ih =>
    simp only [itemLines, List.any_cons, occurs_spread own, ih, Document.spreads, List.mem_cons,
      Bool.decide_or]

theorem spreads_unlines {d : Definition} (named : d.Named) {key : String}
    (unbroken : '\n' ∉ key.toList) :
    spreads (Text.unlines d.lines) key = decide (key ∈ Document.spreads d.items) := by
  have marker : '\n' ∉ (spread key).toList := by
    rw [toList_spread]
    simpa using unbroken
  have given : (spread key).toList ≠ [] := by
    rw [toList_spread]
    exact List.cons_ne_nil _ _
  have first : '.' ∉ ("fragment " ++ d.key ++ " on " ++ d.type ++ " \x7b").toList := by
    have plain := Document.not_mem_of_isName named.key (c := '.') rfl
    have type := Document.not_mem_of_isName named.type (c := '.') rfl
    simp [plain, type]
  have close : '.' ∉ "\x7d".toList := by decide
  rw [spreads, Definition.lines, occurs_unlines marker given (List.cons_ne_nil _ _)]
  simp only [List.any_cons, List.any_append, any_occurs_indent,
    any_occurs_itemLines key named.items, occurs_of_no_dot first, occurs_of_no_dot close,
    List.any_nil, Bool.false_or, Bool.or_false]

end GraphqlRequests.Fragment
