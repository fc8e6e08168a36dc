import GraphqlRequests.Proofs.Naming.Identifiers

/-!
# Names of enum members

The name of a member has the words of its value in capitals, and the underscores in front of them
at the end, as one. All that is added to make it an identifier is in small letters, so that the
words can be read off the name again.
-/

namespace GraphqlRequests.Naming

open Text
open Source (isName)

variable {s : List Char} {c : Char}

/-! ### Letters -/

theorem toLower_toUpper (plain : isPlain c = true) (small : c.isUpper = false) :
    c.toUpper.toLower = c ∧ c.toUpper.isLower = false ∧ (c.toUpper = '_' ↔ c = '_') :=
  of_isPlain (fun c => c.isUpper = false →
    c.toUpper.toLower = c ∧ c.toUpper.isLower = false ∧ (c.toUpper = '_' ↔ c = '_')) plain
    (by decide) small

theorem isUpper_toLower (plain : isPlain c = true) : c.toLower.isUpper = false :=
  of_isPlain (fun c => c.toLower.isUpper = false) plain (by decide)

theorem isUpper_snakeChars (plain : ∀ c ∈ s, isPlain c = true) :
    ∀ c ∈ snakeChars s, c.isUpper = false := by
  have words := (markCapitals_plain (markWords_plain .between plain).1).1
  intro c member
  rw [snakeChars, lower_of_ascii _ fun c listed => ascii_of_isPlain (words c listed)] at member
  obtain ⟨d, listed, rfl⟩ := List.mem_map.mp member
  exact isUpper_toLower (words d listed)

/-! ### Underscores -/

def moved : List Char → List Char
  | '_' :: rest => rest.dropWhile (· = '_') ++ ['_']
  | s => s

theorem dropWhile_map_mark {f : Char → Char} (mark : ∀ c ∈ s, f c = '_' ↔ c = '_') :
    (s.map f).dropWhile (· = '_') = (s.dropWhile (· = '_')).map f := by
  induction s with
  | nil => rfl
  | cons c rest ih =>
    obtain ⟨here, later⟩ := List.forall_mem_cons.mp mark
    by_cases under : c = '_'
    · subst under
      simp [here.mpr rfl, ih later]
    · simp [under, here]

theorem moved_map {f : Char → Char} (mark : ∀ c ∈ s, f c = '_' ↔ c = '_') (under : f '_' = '_') :
    moved (s.map f) = (moved s).map f := by
  cases s with
  | nil => rfl
  | cons c rest =>
    obtain ⟨here, later⟩ := List.forall_mem_cons.mp mark
    by_cases leads : c = '_'
    · subst leads
      simp [moved, under, dropWhile_map_mark later]
    · have other := here.not.mpr leads
      simp [moved, leads, other]

theorem mem_moved (member : c ∈ moved s) : c ∈ s ∨ c = '_' := by
  fun_cases moved s with
  | case1 rest =>
    rw [moved, List.mem_append, List.mem_singleton] at member
    refine member.imp_left fun inside => ?_
    exact List.mem_cons_of_mem _ ((List.dropWhile_sublist _).subset inside)
  | case2 _ other => exact .inl (by rwa [moved.eq_2 _ other] at member)

/-! ### Names of members -/

def fitted (words : List Char) : List Char :=
  if words.all (· = '_') then "field".toList ++ words
  else if words.head?.any isDigit then 'n' :: words else words

theorem filter_fitted (capital : ∀ c ∈ s, c.isLower = false) :
    (fitted s).filter (!·.isLower) = s := by
  have words : s.filter (!·.isLower) = s := List.filter_eq_self.mpr (by simpa using capital)
  have added : "field".toList.filter (!·.isLower) = [] := by decide
  rw [fitted]
  split
  · rw [List.filter_append, added, words, List.nil_append]
  · split
    · exact (List.filter_cons_of_neg (by decide)).trans words
    · exact words

theorem isReserved_of_tail {name : List Char} (capital : ∀ c ∈ name.tail, c.isLower = false) :
    isReserved name = false := by
  have small : ∀ word ∈ keywords ++ shadowed, word.toList.tail.any Char.isLower = true := by decide
  rw [isReserved, List.any_eq_false]
  intro word member same
  obtain ⟨c, inside, lower⟩ := List.any_eq_true.mp (small word member)
  rw [of_decide_eq_true same] at inside
  exact absurd lower (by simp [capital c inside])

theorem fitted_cons (other : c ≠ '_') :
    fitted (c :: s) = if isDigit c then 'n' :: c :: s else c :: s := by
  rw [fitted, if_neg (by simp [other]), List.head?_cons, Option.any_some]

theorem identifierChars_capital (plain : ∀ c ∈ s, isPlain c = true)
    (capital : ∀ c ∈ s, c.isLower = false) : identifierChars s = fitted (moved s) := by
  have words : (s.map fun c => if isWord c then c else '_') = s := worded_of_isPlain plain
  rw [identifierChars]
  simp only [words]
  cases s with
  | nil => decide
  | cons c rest =>
    by_cases leads : c = '_'
    · subst leads
      have shorter : rest.dropWhile (· = '_') ≠ '_' :: rest := fun same => by
        have lengths := (List.dropWhile_sublist (· = '_') (l := rest)).length_le
        rw [same, List.length_cons] at lengths
        omega
      rw [List.dropWhile_cons_of_pos (by simp), moved, if_pos (.inl shorter)]
      cases stripped : rest.dropWhile (· = '_') with
      | nil => decide
      | cons d more =>
        have other : d ≠ '_' := by simpa [stripped] using List.head?_dropWhile_not (· = '_') rest
        rw [List.cons_append, fitted_cons other]
        cases digit : isDigit d <;> simp [digit]
    · have kept : (c :: rest).dropWhile (· = '_') = c :: rest :=
        List.dropWhile_cons_of_neg (by simpa using leads)
      obtain ⟨-, later⟩ := List.forall_mem_cons.mp capital
      have free : isReserved (if isDigit c then 'n' :: c :: rest else c :: rest) = false := by
        split
        · exact isReserved_of_tail capital
        · exact isReserved_of_tail later
      rw [kept, moved.eq_2 _ (by simpa using leads), fitted_cons leads]
      simp [free]

/-- The words of a value, in small letters, with underscores at the end only. -/
def memberWords (value : String) : String :=
  String.ofList (moved (snakeChars value.toList))

theorem toList_enumMemberName {value : String} (named : Sdl.isName value.toList = true) :
    (enumMemberName value).toList = fitted ((memberWords value).toList.map Char.toUpper) ∧
    ∀ c ∈ (memberWords value).toList, c.toUpper.toLower = c ∧ c.toUpper.isLower = false := by
  have plain := (snakeChars_plain (isPlain_of_isName named)).1
  have small := isUpper_snakeChars (isPlain_of_isName named)
  have raised : upper (snakeChars value.toList) = (snakeChars value.toList).map Char.toUpper :=
    upper_of_ascii _ fun c member => ascii_of_isPlain (plain c member)
  have letters : ∀ c ∈ snakeChars value.toList,
      c.toUpper.toLower = c ∧ c.toUpper.isLower = false ∧ (c.toUpper = '_' ↔ c = '_') :=
    fun c member => toLower_toUpper (plain c member) (small c member)
  constructor
  · rw [enumMemberName, memberWords, String.toList_ofList, String.toList_ofList, raised,
      ← moved_map (fun c member => (letters c member).2.2) (by decide)]
    refine identifierChars_capital (fun c member => ?_) fun c member => ?_
    · obtain ⟨d, listed, rfl⟩ := List.mem_map.mp member
      exact (toUpper_isPlain (plain d listed)).1
    · obtain ⟨d, listed, rfl⟩ := List.mem_map.mp member
      exact (letters d listed).2.1
  · rw [memberWords, String.toList_ofList]
    intro c member
    rcases mem_moved member with inside | rfl
    · exact ⟨(letters c inside).1, (letters c inside).2.1⟩
    · decide

/-- Members have one name just where the words of their values are the same. -/
theorem enumMemberName_eq_iff {value other : String} (named : Sdl.isName value.toList = true)
    (called : Sdl.isName other.toList = true) :
    enumMemberName value = enumMemberName other ↔ memberWords value = memberWords other := by
  obtain ⟨name, letters⟩ := toList_enumMemberName named
  obtain ⟨second, others⟩ := toList_enumMemberName called
  constructor
  · intro same
    have read : ∀ words : List Char,
        (∀ c ∈ words, c.toUpper.toLower = c ∧ c.toUpper.isLower = false) →
        ((fitted (words.map Char.toUpper)).filter (!·.isLower)).map Char.toLower = words := by
      intro words each
      have capital : ∀ c ∈ words.map Char.toUpper, c.isLower = false :=
        List.forall_mem_map.mpr fun c member => (each c member).2
      rw [filter_fitted capital, List.map_map]
      exact (List.map_congr_left fun c member => (each c member).1).trans (List.map_id' _)
    rw [← String.toList_inj, ← read _ letters, ← read _ others, ← name, ← second, same]
  · intro same
    rw [← String.toList_inj, name, second, same]

/-! ### Values in capitals -/

/-- Capitals and underscores, with a capital in front. -/
def InCapitals (value : String) : Prop :=
  ∃ c rest, value.toList = c :: rest ∧ c ≠ '_' ∧ ∀ d ∈ c :: rest, d.isUpper = true ∨ d = '_'

theorem isPlain_of_isUpper (capital : c.isUpper = true ∨ c = '_') : isPlain c = true := by
  refine isPlain_of_continuesName ?_
  rcases capital with upper | rfl
  · have letter : c.isAlpha = true := Bool.or_eq_true_iff.mpr (.inl upper)
    simp [Sdl.continuesName, Char.isAlphanum, letter]
  · decide

theorem of_isUpper (capital : c.isUpper = true ∨ c = '_') : isSmall c = false ∧
    ('0' ≤ c && c ≤ '9') = false ∧ isDigit c = false ∧ c.isLower = false ∧
    c.toLower.toUpper = c :=
  of_isPlain (fun c => c.isUpper = true ∨ c = '_' → isSmall c = false ∧
    ('0' ≤ c && c ≤ '9') = false ∧ isDigit c = false ∧ c.isLower = false ∧
    c.toLower.toUpper = c) (isPlain_of_isUpper capital) (by decide) capital

theorem markWords_capitals (place : Place) (capital : ∀ c ∈ s, isSmall c = false) :
    markWords place s = s := by
  have starts : ∀ (c : Char) {rest : List Char}, (∀ d ∈ rest, isSmall d = false) →
      startsWord c rest = false := by
    intro c rest each
    match rest, each with
    | [], _ | [_], _ => rfl
    | b :: a :: _, each => simp [startsWord, each a (by simp)]
  fun_induction markWords place s with
  | case1 => rfl
  | case2 c rest ih | case3 place c rest _ _ ih | case5 place c rest _ _ _ ih =>
    rw [ih (List.forall_mem_cons.mp capital).2]
  | case4 place c rest _ _ word =>
    rw [starts c (List.forall_mem_cons.mp capital).2] at word
    cases word

theorem markCapitals_capitals (capital : ∀ c ∈ s, c.isUpper = true ∨ c = '_') :
    markCapitals s = s := by
  fun_induction markCapitals s with
  | case1 a b rest word =>
    obtain ⟨small, digit, -⟩ := of_isUpper (capital a List.mem_cons_self)
    simp only [small, digit, Bool.or_self, Bool.false_and, Bool.false_eq_true] at word
  | case2 a b rest _ ih => rw [ih (List.forall_mem_cons.mp capital).2]
  | case3 => rfl

theorem enumMemberName_of_inCapitals {value : String} (capitals : InCapitals value) :
    enumMemberName value = value := by
  obtain ⟨first, rest, chars, other, each⟩ := capitals
  rw [← chars] at each
  have snake : snakeChars value.toList = value.toList.map Char.toLower := by
    rw [snakeChars, markWords_capitals _ fun c member => (of_isUpper (each c member)).1,
      markCapitals_capitals each,
      lower_of_ascii _ fun c member => ascii_of_isPlain (isPlain_of_isUpper (each c member))]
  have raised : upper (snakeChars value.toList) = value.toList := by
    rw [snake, upper_of_ascii, List.map_map]
    · exact (List.map_congr_left fun c member =>
        (of_isUpper (each c member)).2.2.2.2).trans (List.map_id' _)
    · intro c member
      obtain ⟨d, listed, rfl⟩ := List.mem_map.mp member
      exact ascii_of_isPlain (toLower_isPlain (isPlain_of_isUpper (each d listed))).1
  have kept : fitted (moved value.toList) = value.toList := by
    have letter := (of_isUpper (each first (chars ▸ List.mem_cons_self))).2.2.1
    rw [chars, moved.eq_2 _ (by simpa using other), fitted_cons other, if_neg (by simp [letter])]
  rw [enumMemberName, raised, identifierChars_capital
    (fun c member => isPlain_of_isUpper (each c member))
    (fun c member => (of_isUpper (each c member)).2.2.2.1), kept, String.ofList_toList]

end GraphqlRequests.Naming
