import GraphqlRequests.Text.Class
import Mathlib.Data.List.Chain
import Mathlib.Data.List.DropRight

/-!
# White space

Trimming takes white space from the ends of a text, and collapsing leaves one blank of each run of
it. Both keep the words of the text, and both together leave a line: words with a blank between each
two.
-/

namespace GraphqlRequests.Text

variable {s t : List Char} {c : Char}

/-- The words of a text, in order: what stands between white space. -/
def words (s : List Char) : List (List Char) :=
  (s.splitOnP isSpace).filter (· ≠ [])

structure Spaced (s : List Char) : Prop where
  blanks : ∀ c ∈ s, isSpace c = true → c = ' '
  single : s.IsChain fun c d => isSpace c = true → isSpace d = false

/-- All white space is single blanks between other characters. -/
structure OneLine (s : List Char) : Prop extends Spaced s where
  starts : ∀ c ∈ s.head?, isSpace c = false
  ends : ∀ c ∈ s.getLast?, isSpace c = false

/-! ### Words -/

theorem words_append_space (space : isSpace c = true) (s t : List Char) :
    words (s ++ c :: t) = words s ++ words t := by
  rw [words, List.splitOnP_append_cons s t space, List.filter_append, words, words]

theorem words_nil : words [] = [] := by
  simp [words]

theorem words_cons_space (space : isSpace c = true) (s : List Char) : words (c :: s) = words s := by
  simpa [words_nil] using words_append_space space [] s

theorem words_concat_space (space : isSpace c = true) (s : List Char) :
    words (s ++ [c]) = words s := by
  simpa [words_nil] using words_append_space space s []

/-! ### Trimming -/

theorem isInfix_strip (s : List Char) : strip s <:+: s :=
  (List.rdropWhile_prefix isSpace _).isInfix.trans (List.dropWhile_suffix isSpace).isInfix

theorem head?_dropWhile_space (s : List Char) :
    ∀ c ∈ (s.dropWhile isSpace).head?, isSpace c = false := by
  intro c first
  simpa [Option.mem_def.mp first] using List.head?_dropWhile_not isSpace s

theorem head?_strip (s : List Char) : ∀ c ∈ (strip s).head?, isSpace c = false := by
  intro c first
  obtain ⟨rest, whole⟩ : strip s <+: s.dropWhile isSpace := List.rdropWhile_prefix isSpace _
  refine head?_dropWhile_space s c ?_
  rw [← whole, List.head?_append, Option.mem_def.mp first]
  rfl

theorem getLast?_strip (s : List Char) : ∀ c ∈ (strip s).getLast?, isSpace c = false := by
  rw [strip, List.getLast?_reverse]
  exact head?_dropWhile_space _

theorem dropWhile_space_eq_self (starts : ∀ c ∈ s.head?, isSpace c = false) :
    s.dropWhile isSpace = s := by
  cases s with
  | nil => rfl
  | cons c rest => exact List.dropWhile_cons_of_neg (Bool.eq_false_iff.mp (starts c rfl))

theorem strip_eq_self (starts : ∀ c ∈ s.head?, isSpace c = false)
    (ends : ∀ c ∈ s.getLast?, isSpace c = false) : strip s = s := by
  rw [← List.head?_reverse] at ends
  rw [strip, dropWhile_space_eq_self starts, dropWhile_space_eq_self ends, List.reverse_reverse]

theorem strip_cons_space (space : isSpace c = true) : strip (c :: s) = strip s := by
  rw [strip, strip, List.dropWhile_cons_of_pos space]

theorem Spaced.part {part : List Char} (spaced : Spaced s) (inside : part <:+: s) : Spaced part :=
  ⟨fun c member => spaced.blanks c (inside.subset member), spaced.single.infix inside⟩

theorem oneLine_strip (spaced : Spaced s) : OneLine (strip s) :=
  { spaced.part (isInfix_strip s) with starts := head?_strip s, ends := getLast?_strip s }

theorem words_dropWhile_space (s : List Char) : words (s.dropWhile isSpace) = words s := by
  induction s with
  | nil => rfl
  | cons c rest ih =>
    by_cases space : isSpace c = true
    · rw [List.dropWhile_cons_of_pos space, ih, words_cons_space space]
    · rw [List.dropWhile_cons_of_neg space]

theorem words_strip (s : List Char) : words (strip s) = words s := by
  have back : ∀ t, words (t.rdropWhile isSpace) = words t := by
    intro t
    induction t using List.reverseRecOn with
    | nil => rfl
    | append_singleton t c ih =>
      rw [List.rdropWhile_concat]
      split
      · next space => rw [ih, words_concat_space space]
      · rfl
  exact (back _).trans (words_dropWhile_space s)

/-! ### Collapsing -/

theorem collapseAfter_true (s : List Char) :
    collapseAfter true s = collapse (s.dropWhile isSpace) := by
  induction s with
  | nil => rfl
  | cons c rest ih =>
    by_cases space : isSpace c = true
    · rw [collapseAfter_of_space true c rest space, if_pos rfl, ih,
        List.dropWhile_cons_of_pos space]
    · rw [List.dropWhile_cons_of_neg space, collapse, collapseAfter_of_not_space true c rest space,
        collapseAfter_of_not_space false c rest space]

theorem collapse_cons_space (space : isSpace c = true) (rest : List Char) :
    collapse (c :: rest) = ' ' :: collapse (rest.dropWhile isSpace) := by
  rw [collapse, collapseAfter_of_space false c rest space, if_neg nofun, collapseAfter_true]

theorem collapse_cons_other (other : isSpace c = false) (rest : List Char) :
    collapse (c :: rest) = c :: collapse rest :=
  collapseAfter_of_not_space false c rest (Bool.eq_false_iff.mp other)

theorem spaced_cons : Spaced (c :: s) ↔ (isSpace c = true → c = ' ') ∧
    (isSpace c = true → ∀ d ∈ s.head?, isSpace d = false) ∧ Spaced s := by
  constructor
  · rintro ⟨blanks, single⟩
    obtain ⟨here, later⟩ := List.forall_mem_cons.mp blanks
    obtain ⟨next, rest⟩ := List.isChain_cons.mp single
    exact ⟨here, fun space d first => next d first space, later, rest⟩
  · rintro ⟨here, next, later, rest⟩
    exact ⟨List.forall_mem_cons.mpr ⟨here, later⟩,
      List.isChain_cons.mpr ⟨fun d first space => next space d first, rest⟩⟩

theorem spaced_collapseAfter (blank : Bool) (s : List Char) : Spaced (collapseAfter blank s) ∧
    (blank = true → ∀ c ∈ (collapseAfter blank s).head?, isSpace c = false) := by
  fun_induction collapseAfter blank s with
  | case1 => exact ⟨⟨by simp, .nil⟩, by simp⟩
  | case2 c rest _ ih => exact ih
  | case3 blank c rest _ outside ih =>
    refine ⟨spaced_cons.mpr ⟨fun _ => rfl, fun _ => ih.2 rfl, ih.1⟩, fun after => ?_⟩
    exact absurd after outside
  | case4 blank c rest other ih =>
    have spaced : Spaced (c :: collapseAfter false rest) :=
      spaced_cons.mpr ⟨fun space => absurd space other, fun space => absurd space other, ih.1⟩
    refine ⟨spaced, ?_⟩
    rintro - d first
    obtain rfl : c = d := Option.some.inj first
    exact Bool.eq_false_iff.mpr other

theorem spaced_collapse (s : List Char) : Spaced (collapse s) :=
  (spaced_collapseAfter false s).1

theorem collapseAfter_eq_self {blank : Bool} (spaced : Spaced s)
    (apart : blank = true → ∀ c ∈ s.head?, isSpace c = false) : collapseAfter blank s = s := by
  fun_induction collapseAfter blank s with
  | case1 => rfl
  | case2 c rest space => exact absurd space (Bool.eq_false_iff.mp (apart rfl c rfl))
  | case3 blank c rest space _ ih =>
    obtain ⟨here, next, later⟩ := spaced_cons.mp spaced
    rw [ih later fun _ => next space, here space]
  | case4 blank c rest _ ih => rw [ih (spaced_cons.mp spaced).2.2 nofun]

theorem collapse_eq_self (spaced : Spaced s) : collapse s = s :=
  collapseAfter_eq_self spaced nofun

/-- The words are the same also where the text goes on with what is collapsed, but for a blank that
has been written. -/
theorem words_append_collapseAfter {blank : Bool} (front : List Char)
    (between : blank = true → front = []) :
    words (front ++ collapseAfter blank s) = words (front ++ s) := by
  fun_induction collapseAfter blank s generalizing front with
  | case1 => rfl
  | case2 c rest space ih =>
    obtain rfl := between rfl
    simpa [words_cons_space space] using ih [] fun _ => rfl
  | case3 blank c rest space _ ih =>
    rw [words_append_space rfl, words_append_space space]
    exact congrArg (words front ++ ·) (ih [] fun _ => rfl)
  | case4 blank c rest _ ih =>
    rw [List.append_cons, List.append_cons front c rest]
    exact ih (front ++ [c]) nofun

theorem words_collapse (s : List Char) : words (collapse s) = words s :=
  words_append_collapseAfter [] nofun

end GraphqlRequests.Text
