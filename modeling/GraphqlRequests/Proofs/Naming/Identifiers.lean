import GraphqlRequests.Naming
import GraphqlRequests.Proofs.Text.Lines
import GraphqlRequests.Sdl.Token
import GraphqlRequests.Source.Token
import Mathlib.Data.List.Basic

/-!
# Identifiers from names

Names of the query language have letters of the basic alphabet, digits and underscores. What is made
from them for attributes and members of enums is always an identifier. The name of a request class
is one unless the first character that is no underscore is a digit.
-/

namespace GraphqlRequests.Naming

open Text
open Source (isWordText isName)

variable {s : List Char} {c : Char}

/-! ### Plain characters -/

def isPlain (c : Char) : Bool :=
  c.toNat < 128 && (c.isAlphanum || c = '_')

theorem ascii_of_isPlain (plain : isPlain c = true) : c.toNat < 128 := by
  simp only [isPlain, Bool.and_eq_true, decide_eq_true_eq] at plain
  exact plain.1

theorem of_ascii (holds : Char → Prop) (ascii : c.toNat < 128)
    (all : ∀ n : Fin 128, holds (Char.ofNat n)) : holds c := by
  have here := all ⟨c.toNat, ascii⟩
  rwa [Char.ofNat_toNat] at here

theorem of_isPlain (holds : Char → Prop) (plain : isPlain c = true)
    (all : ∀ n : Fin 128, isPlain (Char.ofNat n) = true → holds (Char.ofNat n)) : holds c :=
  of_ascii (fun c => isPlain c = true → holds c) (ascii_of_isPlain plain) all plain

theorem continuesName_of_isPlain (plain : isPlain c = true) : continuesName c = true :=
  of_isPlain (fun c => continuesName c = true) plain (by decide)

theorem startsName_iff (plain : isPlain c = true) : startsName c = true ↔ c.isDigit = false :=
  of_isPlain (fun c => startsName c = true ↔ c.isDigit = false) plain (by decide)

theorem inWord_of_isPlain (plain : isPlain c = true) : Source.inWord c = true :=
  of_isPlain (fun c => Source.inWord c = true) plain (by decide)

theorem isWord_of_isPlain (plain : isPlain c = true) : isWord c = true :=
  of_isPlain (fun c => isWord c = true) plain (by decide)

theorem toLower_isPlain (plain : isPlain c = true) : isPlain c.toLower = true ∧
    (c.toLower = '_' ↔ c = '_') ∧ (c.toLower.isDigit = c.isDigit) :=
  of_isPlain (fun c => isPlain c.toLower = true ∧ (c.toLower = '_' ↔ c = '_') ∧
    (c.toLower.isDigit = c.isDigit)) plain (by decide)

theorem toUpper_isPlain (plain : isPlain c = true) : isPlain c.toUpper = true ∧
    (c.toUpper.isDigit = c.isDigit) :=
  of_isPlain (fun c => isPlain c.toUpper = true ∧ (c.toUpper.isDigit = c.isDigit)) plain
    (by decide)

theorem isPlain_of_continuesName (continues : Sdl.continuesName c = true) : isPlain c = true := by
  have ascii : c.toNat < 128 := by
    have ranges : c.isAlphanum = ((decide ('A'.val ≤ c.val ∧ c.val ≤ 'Z'.val)
        || decide ('a'.val ≤ c.val) && decide (c.val ≤ 'z'.val))
        || decide ('0'.val ≤ c.val) && decide (c.val ≤ '9'.val)) := rfl
    simp only [Sdl.continuesName, ranges, Bool.or_eq_true, Bool.and_eq_true, decide_eq_true_eq,
      UInt32.le_iff_toNat_le] at continues
    rcases continues with (((upper | lower) | digit) | rfl)
    · exact Nat.lt_of_le_of_lt upper.2 (by decide)
    · exact Nat.lt_of_le_of_lt lower.2 (by decide)
    · exact Nat.lt_of_le_of_lt digit.2 (by decide)
    · decide
  simpa [isPlain, ascii, Sdl.continuesName] using continues

theorem isPlain_of_isName (named : Sdl.isName s = true) : ∀ c ∈ s, isPlain c = true :=
  fun c member => isPlain_of_continuesName (Sdl.continuesName_of_isName named c member)

/-! ### Words in small letters -/

/-- The first pass adds underscores only, and none before the first character. -/
theorem markWords_plain (place : Place) (plain : ∀ c ∈ s, isPlain c = true) :
    (∀ c ∈ markWords place s, isPlain c = true) ∧
    ((markWords place s).dropWhile (· = '_')).head? = (s.dropWhile (· = '_')).head? := by
  fun_induction markWords place s with
  | case1 => exact ⟨plain, rfl⟩
  | case2 c rest ih | case3 place c rest _ _ ih | case5 place c rest _ _ _ ih =>
    obtain ⟨here, later⟩ := List.forall_mem_cons.mp plain
    obtain ⟨each, same⟩ := ih later
    refine ⟨List.forall_mem_cons.mpr ⟨here, each⟩, ?_⟩
    by_cases under : c = '_' <;> simp [under, same]
  | case4 place c rest _ _ _ ih =>
    obtain ⟨here, later⟩ := List.forall_mem_cons.mp plain
    obtain ⟨each, same⟩ := ih later
    refine ⟨List.forall_mem_cons.mpr ⟨here, List.forall_mem_cons.mpr ⟨by decide, each⟩⟩, ?_⟩
    by_cases under : c = '_' <;> simp [under, same]

theorem markCapitals_plain (plain : ∀ c ∈ s, isPlain c = true) :
    (∀ c ∈ markCapitals s, isPlain c = true) ∧
    ((markCapitals s).dropWhile (· = '_')).head? = (s.dropWhile (· = '_')).head? := by
  fun_induction markCapitals s with
  | case1 a b rest _ ih =>
    obtain ⟨here, later⟩ := List.forall_mem_cons.mp plain
    obtain ⟨each, same⟩ := ih later
    refine ⟨List.forall_mem_cons.mpr ⟨here, List.forall_mem_cons.mpr ⟨by decide, each⟩⟩, ?_⟩
    by_cases under : a = '_' <;> simp [under, same]
  | case2 a b rest _ ih =>
    obtain ⟨here, later⟩ := List.forall_mem_cons.mp plain
    obtain ⟨each, same⟩ := ih later
    refine ⟨List.forall_mem_cons.mpr ⟨here, each⟩, ?_⟩
    by_cases under : a = '_' <;> simp [under, same]
  | case3 => exact ⟨plain, rfl⟩

theorem snakeChars_plain (plain : ∀ c ∈ s, isPlain c = true) :
    (∀ c ∈ snakeChars s, isPlain c = true) ∧
    ((snakeChars s).dropWhile (· = '_')).head?.map Char.isDigit
      = (s.dropWhile (· = '_')).head?.map Char.isDigit := by
  obtain ⟨words, first⟩ := markWords_plain .between plain
  obtain ⟨capitals, same⟩ := markCapitals_plain words
  have lowered : snakeChars s = (markCapitals (markWords .between s)).map Char.toLower :=
    lower_of_ascii _ fun c member => ascii_of_isPlain (capitals c member)
  rw [lowered]
  refine ⟨fun c member => ?_, ?_⟩
  · obtain ⟨d, listed, rfl⟩ := List.mem_map.mp member
    exact (toLower_isPlain (capitals d listed)).1
  · rw [← first, ← same]
    generalize markCapitals (markWords .between s) = chars at capitals
    clear first same lowered words plain
    induction chars with
    | nil => rfl
    | cons c rest ih =>
      obtain ⟨here, later⟩ := List.forall_mem_cons.mp capitals
      obtain ⟨-, under, digit⟩ := toLower_isPlain here
      by_cases same : c = '_'
      · simpa [under.mpr same, same] using ih later
      · have other : c.toLower ≠ '_' := fun lower => same (under.mp lower)
        simp [same, other, digit]

/-! ### Attributes and members -/

theorem isWordText_cons {rest : List Char} (starts : startsName c = true)
    (plain : ∀ d ∈ rest, isPlain d = true) : isWordText (c :: rest) = true := by
  rw [isWordText, starts, Bool.true_and, List.all_eq_true]
  exact fun d member => continuesName_of_isPlain (plain d member)

theorem notMem_keywords_of_underscore (name : List Char) :
    String.ofList (name ++ ['_']) ∉ keywords := by
  have none : ∀ word ∈ keywords, word.toList.getLast? ≠ some '_' := by decide
  exact fun keyword => none _ keyword (by simp)

theorem notMem_keywords_of_isReserved {name : List Char} (free : isReserved name = false) :
    String.ofList name ∉ keywords := by
  intro keyword
  have reserved : isReserved name = true := by
    rw [isReserved, List.any_eq_true]
    exact ⟨_, List.mem_append_left _ keyword, by simp⟩
  rw [free] at reserved
  cases reserved

theorem isWordText_unreserved (plain : ∀ c ∈ s, isPlain c = true) {stripped name : List Char}
    (strip : stripped = s.dropWhile (· = '_'))
    (named : name = if stripped = [] then "field".toList else stripped) :
    isWordText (if name.head?.any isDigit then 'n' :: name else name) = true := by
  have inside : ∀ c ∈ name, isPlain c = true := by
    rw [named, strip]
    split
    · exact List.all_eq_true.mp (by decide)
    · exact fun c member => plain c ((List.dropWhile_sublist _).subset member)
  have first : ∃ c rest, name = c :: rest ∧ c ≠ '_' := by
    rw [named]
    split
    · exact ⟨_, _, rfl, by decide⟩
    · next some =>
      obtain ⟨c, rest, shape⟩ := List.exists_cons_of_ne_nil some
      have other := List.head?_dropWhile_not (· = '_') s
      rw [← strip, shape] at other
      exact ⟨c, rest, shape, by simpa using other⟩
  obtain ⟨c, rest, rfl, other⟩ := first
  obtain ⟨here, later⟩ := List.forall_mem_cons.mp inside
  have digits : isDigit c = c.isDigit := isDigit_of_ascii c (ascii_of_isPlain here)
  rw [List.head?_cons, Option.any_some, digits]
  split
  · exact isWordText_cons (by decide) inside
  · next letter => exact isWordText_cons ((startsName_iff here).mpr (by simpa using letter)) later

/-- An underscore for each character that stands in no word. -/
def worded (s : List Char) : List Char :=
  s.map fun c => if isWord c then c else '_'

theorem worded_of_isWord (words : ∀ c ∈ s, isWord c = true) : worded s = s :=
  (List.map_congr_left fun c member => if_pos (words c member)).trans (List.map_id' _)

theorem worded_of_isPlain (plain : ∀ c ∈ s, isPlain c = true) : worded s = s :=
  worded_of_isWord fun c member => isWord_of_isPlain (plain c member)

theorem isName_identifierChars (plain : ∀ c ∈ s, isPlain c = true) :
    isName (String.ofList (identifierChars s)) = true := by
  have words : (s.map fun c => if isWord c then c else '_') = s := worded_of_isPlain plain
  obtain ⟨name, shape, same⟩ : ∃ name, isWordText name = true ∧ identifierChars s
      = if s.dropWhile (· = '_') ≠ s ∨ isReserved name then name ++ ['_'] else name :=
    ⟨_, isWordText_unreserved plain rfl rfl, by rw [identifierChars]; simp only [words]⟩
  rw [same, Source.isName, Bool.and_eq_true, decide_eq_true_eq, String.toList_ofList]
  split
  · refine ⟨?_, notMem_keywords_of_underscore name⟩
    cases name with
    | nil => cases shape
    | cons c rest =>
      rw [isWordText, Bool.and_eq_true] at shape
      simp [isWordText, shape, continuesName_of_isPlain (c := '_') (by decide)]
  · next free =>
    simp only [not_or, Bool.not_eq_true] at free
    exact ⟨shape, notMem_keywords_of_isReserved free.2⟩

theorem isName_attributeName {name : String} (named : Sdl.isName name.toList = true) :
    isName (attributeName name) = true :=
  isName_identifierChars (snakeChars_plain (isPlain_of_isName named)).1

theorem isName_enumMemberName {value : String} (named : Sdl.isName value.toList = true) :
    isName (enumMemberName value) = true := by
  have plain := (snakeChars_plain (isPlain_of_isName named)).1
  refine isName_identifierChars fun c member => ?_
  rw [upper_of_ascii _ fun c member => ascii_of_isPlain (plain c member)] at member
  obtain ⟨d, listed, rfl⟩ := List.mem_map.mp member
  exact (toUpper_isPlain (plain d listed)).1

/-! ### Distinct names -/

theorem isWordText_append {more : List Char} (shape : isWordText s = true)
    (continues : ∀ c ∈ more, continuesName c = true) : isWordText (s ++ more) = true := by
  cases s with
  | nil => cases shape
  | cons c rest =>
    rw [isWordText, Bool.and_eq_true] at shape
    rw [List.cons_append, isWordText, List.all_append, shape.1, shape.2, Bool.true_and, Bool.true_and,
      List.all_eq_true]
    exact continues

theorem underscored_zero (name : String) : underscored name 0 = name := by
  simp [underscored]

theorem underscored_succ (name : String) (n : Nat) :
    underscored name (n + 1) = underscored name n ++ "_" := by
  rw [← String.toList_inj]
  simp [underscored, List.replicate_succ']

theorem of_underscored (holds : String → Prop) (kept : ∀ name, holds name → holds (name ++ "_"))
    {name : String} (here : holds name) (n : Nat) : holds (underscored name n) := by
  induction n with
  | zero => rwa [underscored_zero]
  | succ n ih =>
    rw [underscored_succ]
    exact kept _ ih

theorem isName_underscored {name : String} (named : isName name = true) (n : Nat) :
    isName (underscored name n) = true := by
  refine of_underscored (fun name => isName name = true) (fun name named => ?_) named n
  rw [Source.isName, Bool.and_eq_true, decide_eq_true_eq] at named ⊢
  refine ⟨?_, ?_⟩
  · rw [String.toList_append, show "_".toList = ['_'] from rfl]
    exact isWordText_append named.1 (List.forall_mem_singleton.mpr (by decide))
  · rw [← String.ofList_toList (s := name ++ "_"), String.toList_append]
    exact notMem_keywords_of_underscore _

theorem forall_mem_distinct {holds : String → Prop}
    (kept : ∀ name n, holds name → holds (underscored name n)) {reserved names : List String}
    (each : ∀ name ∈ names, holds name) : ∀ name ∈ distinct reserved names, holds name := by
  induction names generalizing reserved with
  | nil => simp [distinct]
  | cons name rest ih =>
    obtain ⟨here, later⟩ := List.forall_mem_cons.mp each
    exact List.forall_mem_cons.mpr ⟨kept name _ here, ih later⟩

theorem isName_of_mem_distinct {reserved names : List String}
    (each : ∀ name ∈ names, isName name = true) :
    ∀ name ∈ distinct reserved names, isName name = true := by
  refine forall_mem_distinct ?_ each
  exact fun name n named => isName_underscored named n

/-! ### Words with capitals -/

theorem capitalize_plain (plain : ∀ c ∈ s, isPlain c = true) :
    (∀ c ∈ capitalize s, isPlain c = true) ∧
    (capitalize s).head?.map Char.isDigit = s.head?.map Char.isDigit := by
  cases s with
  | nil => exact ⟨plain, rfl⟩
  | cons c rest =>
    obtain ⟨here, later⟩ := List.forall_mem_cons.mp plain
    obtain ⟨upper, digit⟩ := toUpper_isPlain here
    have raised : upperOf c = [c.toUpper] := if_pos (ascii_of_isPlain here)
    rw [capitalize, raised, List.singleton_append]
    exact ⟨List.forall_mem_cons.mpr ⟨upper, later⟩, by simp [digit]⟩

theorem exists_mem_splitChars {sep : Char} (member : c ∈ s) (other : c ≠ sep) :
    ∃ piece ∈ splitChars sep s, c ∈ piece := by
  induction s with
  | nil => cases member
  | cons d rest ih =>
    rw [splitChars]
    split
    · next same =>
      rcases List.mem_cons.mp member with rfl | later
      · exact absurd same other
      · obtain ⟨piece, listed, inside⟩ := ih later
        exact ⟨piece, List.mem_cons_of_mem _ listed, inside⟩
    · split
      · next first others pieces =>
        rw [pieces] at ih
        rcases List.mem_cons.mp member with rfl | later
        · exact ⟨_, List.mem_cons_self, List.mem_cons_self⟩
        · obtain ⟨piece, listed, inside⟩ := ih later
          rcases List.mem_cons.mp listed with rfl | further
          · exact ⟨_, List.mem_cons_self, List.mem_cons_of_mem _ inside⟩
          · exact ⟨piece, List.mem_cons_of_mem _ further, inside⟩
      · next none => exact absurd none (splitChars_ne_nil sep rest)

/-- The first word starts with the first character that is no underscore. -/
theorem flatMap_capitalize_plain (plain : ∀ c ∈ s, isPlain c = true) :
    (∀ c ∈ (splitChars '_' s).flatMap capitalize, isPlain c = true) ∧
    ((splitChars '_' s).flatMap capitalize).head?.map Char.isDigit
      = (s.dropWhile (· = '_')).head?.map Char.isDigit := by
  constructor
  · intro c member
    obtain ⟨piece, listed, inside⟩ := List.mem_flatMap.mp member
    exact (capitalize_plain fun d own => plain d (mem_of_mem_splitChars listed d own)).1 c inside
  · induction s with
    | nil => rfl
    | cons c rest ih =>
      obtain ⟨here, later⟩ := List.forall_mem_cons.mp plain
      rw [splitChars]
      split
      · next under => simpa [under, capitalize] using ih later
      · next other =>
        have raised : upperOf c = [c.toUpper] := if_pos (ascii_of_isPlain here)
        split
        · simp [capitalize, raised, other, (toUpper_isPlain here).2]
        · simp [capitalize, raised, other, (toUpper_isPlain here).2]

theorem pascalChars_plain (plain : ∀ c ∈ s, isPlain c = true) :
    (∀ c ∈ pascalChars s, isPlain c = true) ∧
    (pascalChars s).head?.map Char.isDigit = (s.dropWhile (· = '_')).head?.map Char.isDigit := by
  obtain ⟨snake, first⟩ := snakeChars_plain plain
  obtain ⟨pascal, same⟩ := flatMap_capitalize_plain snake
  exact ⟨pascal, same.trans first⟩

def startsWithDigit (name : String) : Bool :=
  (name.toList.dropWhile (· = '_')).head?.any Char.isDigit

theorem startsWithDigit_iff {name : String} (named : Sdl.isName name.toList = true) :
    startsWithDigit name = true ↔ ∃ c rest, (pascalCase name).toList = c :: rest ∧
      c.isDigit = true := by
  have first := (pascalChars_plain (isPlain_of_isName named)).2
  rw [startsWithDigit, pascalCase, String.toList_ofList]
  cases pascal : pascalChars name.toList with
  | nil =>
    rw [pascal] at first
    have none : (name.toList.dropWhile (· = '_')).head? = none := by simpa using first.symm
    simp [none]
  | cons c rest =>
    rw [pascal, List.head?_cons, Option.map_some] at first
    obtain ⟨d, head, same⟩ := Option.map_eq_some_iff.mp first.symm
    simp [head, same]

theorem isName_pascalCase_append {name more : String} (named : Sdl.isName name.toList = true)
    (shape : isWordText more.toList = true) (plain : ∀ c ∈ more.toList, isPlain c = true)
    (free : ∀ word ∈ keywords, ¬more.toList <:+ word.toList) :
    isName (pascalCase name ++ more) = true ↔ startsWithDigit name = false := by
  have inside := (pascalChars_plain (isPlain_of_isName named)).1
  have other : pascalCase name ++ more ∉ keywords :=
    fun keyword => free _ keyword (by simp)
  have chars : (pascalCase name ++ more).toList = pascalChars name.toList ++ more.toList := by
    simp [pascalCase]
  rw [Source.isName, decide_eq_true other, Bool.and_true, chars, ← Bool.not_eq_true,
    startsWithDigit_iff named, pascalCase, String.toList_ofList]
  cases pascal : pascalChars name.toList with
  | nil => simp [shape]
  | cons c rest =>
    rw [pascal] at inside
    obtain ⟨here, later⟩ := List.forall_mem_cons.mp inside
    have all : ∀ d ∈ rest ++ more.toList, isPlain d = true :=
      fun d member => (List.mem_append.mp member).elim (later d) (plain d)
    have digit : (¬∃ d others, c :: rest = d :: others ∧ d.isDigit = true) ↔ c.isDigit = false := by
      simp
    rw [digit, ← startsName_iff here, List.cons_append]
    refine ⟨fun word => ?_, fun starts => isWordText_cons starts all⟩
    rw [isWordText, Bool.and_eq_true] at word
    exact word.1

theorem isWordText_of_isName (named : Sdl.isName s = true) : isWordText s = true := by
  have plain := isPlain_of_isName named
  cases s with
  | nil => cases named
  | cons c rest =>
    obtain ⟨here, later⟩ := List.forall_mem_cons.mp plain
    rw [Sdl.isName, Bool.and_eq_true] at named
    refine isWordText_cons ?_ later
    have starts := named.1
    simpa [Sdl.startsName, startsName, ascii_of_isPlain here] using starts

end GraphqlRequests.Naming
