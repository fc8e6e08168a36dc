import GraphqlRequests.Proofs.Naming.Identifiers
import Mathlib.Data.Bool.AllAny
import Mathlib.Data.Nat.Count

/-!
# Where words end

Two passes over a name put underscores between its words, and each replaces what it finds from left
to right without overlap. Together they do what a look at three neighbouring characters does: an
underscore comes after each character that a word ends with, and nowhere else.
-/

namespace GraphqlRequests.Naming

open Text

variable {s t : List Char} {c : Char}

/-! ### Replacing from left to right -/

/-- What is found at the front of a text: what replaces it, and what follows it. -/
abbrev Finder :=
  List Char → Option (List Char × List Char)

/-- The text with everything replaced that is found, the first place first, the next one behind what
was found before. -/
inductive Replaced (find? : Finder) : List Char → List Char → Prop where
  | done : Replaced find? [] []
  | keep {c rest text} (none : find? (c :: rest) = none) (later : Replaced find? rest text) :
      Replaced find? (c :: rest) (c :: text)
  | replace {s image rest text} (found : find? s = some (image, rest))
      (later : Replaced find? rest text) : Replaced find? s (image ++ text)

theorem Replaced.unique {find? : Finder} (nothing : find? [] = none) (first : Replaced find? s t)
    {other : List Char} (second : Replaced find? s other) : t = other := by
  induction first generalizing other with
  | done =>
    cases second with
    | done => rfl
    | replace found => cases nothing.symm.trans found
  | keep none _ ih =>
    cases second with
    | keep _ later => rw [ih later]
    | replace found => cases none.symm.trans found
  | replace found _ ih =>
    cases second with
    | done => cases nothing.symm.trans found
    | keep none => cases none.symm.trans found
    | replace same later =>
      obtain ⟨rfl, rfl⟩ := Prod.mk.inj (Option.some.inj (found.symm.trans same))
      rw [ih later]

def isSmallOrDigit (c : Char) : Bool :=
  isSmall c || ('0' ≤ c && c ≤ '9')

/-- Any character but a line break, a capital, and as many small letters as follow, one at least. -/
def word? : Finder
  | c :: b :: a :: rest =>
    if c ≠ '\n' ∧ isCapital b ∧ isSmall a then
      some (c :: '_' :: b :: (a :: rest).takeWhile isSmall, (a :: rest).dropWhile isSmall)
    else none
  | _ => none

/-- A small letter or a digit, and a capital. -/
def capital? : Finder
  | a :: b :: rest =>
    if isSmallOrDigit a ∧ isCapital b then some ([a, '_', b], rest) else none
  | _ => none

/-! ### The two passes -/

theorem startsWord_eq_true {rest : List Char} : startsWord c rest = true ↔
    c ≠ '\n' ∧ ∃ b a more, rest = b :: a :: more ∧ isCapital b = true ∧ isSmall a = true := by
  match rest with
  | [] | [_] => simp [startsWord]
  | b :: a :: more => simp [startsWord, and_assoc]

theorem word?_eq_none {rest : List Char} (other : startsWord c rest = false) :
    word? (c :: rest) = none := by
  match rest with
  | [] | [_] => rfl
  | b :: a :: more =>
    rw [word?, if_neg]
    rintro ⟨line, capital, small⟩
    simp [startsWord, line, capital, small] at other

theorem markWords_tail (s : List Char) :
    markWords .tail s = s.takeWhile isSmall ++ markWords .between (s.dropWhile isSmall) := by
  induction s with
  | nil => rfl
  | cons c rest ih =>
    cases small : isSmall c with
    | true => simp [markWords, small, ih]
    | false => simp [markWords, small]

theorem markWords_between (c : Char) (rest : List Char) : markWords .between (c :: rest) =
    if startsWord c rest then c :: '_' :: markWords .capital rest
    else c :: markWords .between rest := by
  simp [markWords]

theorem replaced_markWords (s : List Char) : Replaced word? s (markWords .between s) := by
  match s with
  | [] => exact .done
  | c :: rest =>
    rw [markWords_between]
    split
    · next starts =>
      obtain ⟨line, b, a, more, shape, capital, small⟩ := startsWord_eq_true.mp starts
      have found : word? (c :: rest) = some (c :: '_' :: b :: (a :: more).takeWhile isSmall,
          (a :: more).dropWhile isSmall) := by
        rw [shape]
        exact if_pos ⟨line, capital, small⟩
      -- The search goes on behind the word that was found, not behind its first letter.
      have shorter : ((a :: more).dropWhile isSmall).length < rest.length := by
        have part := ((a :: more).dropWhile_sublist isSmall).length_le
        simp only [shape, List.length_cons] at part ⊢
        omega
      have marks : markWords .capital rest = b :: (a :: more).takeWhile isSmall ++
          markWords .between ((a :: more).dropWhile isSmall) := by
        rw [shape, markWords, markWords_tail, List.cons_append]
      rw [marks]
      exact .replace found (replaced_markWords ((a :: more).dropWhile isSmall))
    · next other =>
      exact .keep (word?_eq_none (Bool.eq_false_iff.mpr other)) (replaced_markWords rest)
termination_by s.length
decreasing_by
  · exact Nat.lt_succ_self rest.length
  · exact Nat.lt_succ_of_lt shorter

theorem isSmallOrDigit_of_isCapital (capital : isCapital c = true) : isSmallOrDigit c = false := by
  simp only [isCapital, Bool.and_eq_true, decide_eq_true_eq, Char.le_def, UInt32.le_iff_toNat_le]
    at capital
  simp only [isSmallOrDigit, isSmall, Bool.or_eq_false_iff, Bool.and_eq_false_iff,
    decide_eq_false_iff_not, Char.le_def, UInt32.le_iff_toNat_le]
  have capitals : 'A'.val.toNat = 65 ∧ 'Z'.val.toNat = 90 := ⟨rfl, rfl⟩
  have others : 'a'.val.toNat = 97 ∧ '9'.val.toNat = 57 := ⟨rfl, rfl⟩
  omega

theorem markCapitals_cons (c : Char) (s : List Char) :
    markCapitals (c :: s) =
      if isSmallOrDigit c && s.head?.any isCapital then c :: '_' :: markCapitals s
      else c :: markCapitals s := by
  cases s with
  | nil => simp [markCapitals]
  | cons b rest => rw [markCapitals]; rfl

theorem replaced_markCapitals (s : List Char) : Replaced capital? s (markCapitals s) := by
  match s with
  | [] => exact .done
  | [c] => exact .keep rfl .done
  | a :: b :: rest =>
    rw [markCapitals_cons, List.head?_cons, Option.any_some]
    split
    · next marks =>
      rw [Bool.and_eq_true] at marks
      have found : capital? (a :: b :: rest) = some ([a, '_', b], rest) := if_pos marks
      -- The capital is passed over with what is found; no underscore would come after it.
      rw [markCapitals_cons b, isSmallOrDigit_of_isCapital marks.2, Bool.false_and]
      exact .replace found (replaced_markCapitals rest)
    · next other =>
      rw [Bool.and_eq_true] at other
      exact .keep (if_neg other) (replaced_markCapitals (b :: rest))

/-! ### Ends of words -/

/-- Does a word end between two characters, given the one after them? There is a capital behind a
small letter or a digit, or behind anything but a line break where a small letter follows. -/
def isEnd (a b : Char) (next : Option Char) : Bool :=
  isCapital b && (isSmallOrDigit a || a ≠ '\n' && next.any isSmall)

def endsWord (s : List Char) (i : Nat) : Bool :=
  match s[i]?, s[i + 1]? with
  | some a, some b => isEnd a b s[i + 2]?
  | _, _ => false

def marked (marks : Nat → Bool) : List Char → List Char
  | [] => []
  | c :: rest =>
    (if marks 0 then [c, '_'] else [c]) ++ marked (fun i => marks (i + 1)) rest

/-- The words of a text, with underscores between them. -/
def parted (s : List Char) : List Char :=
  marked (endsWord s) s

theorem exists_of_endsWord {i : Nat} (ends : endsWord s i = true) : ∃ c, s[i]? = some c := by
  rw [endsWord] at ends
  split at ends
  · next a b first _ => exact ⟨a, first⟩
  · cases ends

theorem parted_cons (c : Char) (rest : List Char) :
    parted (c :: rest) =
      if endsWord (c :: rest) 0 then c :: '_' :: parted rest else c :: parted rest := by
  have shifted : (fun i => endsWord (c :: rest) (i + 1)) = endsWord rest := by
    funext i
    simp [endsWord]
  rw [parted, marked, shifted, parted]
  split <;> rfl

theorem endsWord_cons (c : Char) (rest : List Char) : endsWord (c :: rest) 0 =
    (isSmallOrDigit c && rest.head?.any isCapital || startsWord c rest) := by
  match rest with
  | [] => simp [endsWord, startsWord]
  | [b] => simp [endsWord, isEnd, startsWord, Bool.and_comm]
  | b :: a :: more =>
    simp only [endsWord, isEnd, startsWord, List.getElem?_cons_zero, List.getElem?_cons_succ,
      List.head?_cons, Option.any_some]
    cases isCapital b <;> simp

theorem head?_markWords (place : Place) (s : List Char) : (markWords place s).head? = s.head? := by
  fun_cases markWords place s <;> rfl

theorem isCapital_of_startsWord {rest : List Char} (starts : startsWord c rest = true) :
    rest.head?.any isCapital = true ∧ rest.tail.head?.any isCapital = false := by
  obtain ⟨-, b, a, more, rfl, capital, small⟩ := startsWord_eq_true.mp starts
  refine ⟨capital, Bool.eq_false_iff.mpr fun second => ?_⟩
  have other : isSmallOrDigit a = false := isSmallOrDigit_of_isCapital second
  simp [isSmallOrDigit, small] at other

/-- Where the first pass leaves a character alone, the second sees whether a word ends. -/
theorem markCapitals_cons_markWords {place : Place} {rest : List Char}
    (later : markCapitals (markWords place rest) = parted rest)
    (covered : startsWord c rest = true → (isSmallOrDigit c && rest.head?.any isCapital) = true) :
    markCapitals (c :: markWords place rest) = parted (c :: rest) := by
  rw [markCapitals_cons, head?_markWords, later, parted_cons, endsWord_cons,
    Bool.or_eq_left_iff_imp.mpr covered]

/-- The second pass marks what the first has passed over. -/
theorem markCapitals_markWords (place : Place) (s : List Char)
    (fits : place ≠ .capital ∨ s.tail.head?.any isCapital = false) :
    markCapitals (markWords place s) = parted s := by
  fun_induction markWords place s with
  | case1 => rfl
  | case2 c rest ih =>
    have next : rest.head?.any isCapital = false := fits.resolve_left fun other => other rfl
    refine markCapitals_cons_markWords (ih (.inl (by decide))) fun starts => ?_
    exact absurd (next.symm.trans (isCapital_of_startsWord starts).1) Bool.false_ne_true
  | case3 place c rest _ small ih =>
    have letter : isSmallOrDigit c = true := by simp [isSmallOrDigit, small.2]
    refine markCapitals_cons_markWords (ih (.inl (by decide))) fun starts => ?_
    rw [letter, Bool.true_and, (isCapital_of_startsWord starts).1]
  | case4 place c rest _ _ starts ih =>
    have under : isSmallOrDigit '_' = false ∧ isCapital '_' = false := by decide
    rw [markCapitals_cons, List.head?_cons, Option.any_some, under.2, Bool.and_false,
      if_neg Bool.false_ne_true, markCapitals_cons, under.1, Bool.false_and,
      if_neg Bool.false_ne_true, ih (.inr (isCapital_of_startsWord starts).2), parted_cons,
      endsWord_cons, starts, Bool.or_true, if_pos rfl]
  | case5 place c rest _ _ other ih =>
    exact markCapitals_cons_markWords (ih (.inl (by decide))) fun starts => absurd starts other

/-! ### Places in the marked text -/

theorem length_marked (marks : Nat → Bool) (s : List Char) :
    (marked marks s).length = s.length + Nat.count (fun i => marks i = true) s.length := by
  induction s generalizing marks with
  | nil => rfl
  | cons c rest ih =>
    rw [marked, List.length_append, ih, List.length_cons, Nat.count_succ']
    split <;> simp <;> omega

theorem getElem?_marked (marks : Nat → Bool) {i : Nat} (here : s[i]? = some c) :
    (marked marks s)[i + Nat.count (fun i => marks i = true) i]? = some c ∧
    (marks i = true →
      (marked marks s)[i + Nat.count (fun i => marks i = true) i + 1]? = some '_') := by
  induction s generalizing marks i with
  | nil => cases here
  | cons d rest ih =>
    cases i with
    | zero =>
      obtain rfl := Option.some.inj here
      rw [marked]
      cases marks 0 <;> simp
    | succ i =>
      have later := ih (fun i => marks (i + 1)) here
      rw [marked, Nat.count_succ']
      generalize Nat.count (fun k => marks (k + 1) = true) i = before at later ⊢
      cases marks 0 with
      | true =>
        rw [if_pos rfl, if_pos rfl, show i + 1 + (before + 1) = i + before + 1 + 1 by omega]
        exact later
      | false =>
        rw [if_neg nofun, if_neg nofun, show i + 1 + (before + 0) = i + before + 1 by omega]
        exact later

theorem marked_of_none {marks : Nat → Bool} (none : ∀ i, marks i = false) :
    marked marks s = s := by
  induction s generalizing marks with
  | nil => rfl
  | cons c rest ih =>
    rw [marked, none 0, ih fun i => none (i + 1)]
    rfl

/-! ### Small letters -/

theorem endsWord_of_none (none : ∀ c ∈ s, isCapital c = false) (i : Nat) :
    endsWord s i = false := by
  rw [endsWord]
  split
  · next a b _ second =>
    rw [isEnd, none b (List.mem_of_getElem? second), Bool.false_and]
  · rfl

theorem toLower_ascii (ascii : c.toNat < 128) : c.toLower.toNat < 128 ∧
    isCapital c.toLower = false ∧ c.toLower.toLower = c.toLower :=
  of_ascii (fun c => c.toLower.toNat < 128 ∧ isCapital c.toLower = false ∧
    c.toLower.toLower = c.toLower) ascii (by decide)

theorem mem_marked {marks : Nat → Bool} (member : c ∈ marked marks s) : c ∈ s ∨ c = '_' := by
  induction s generalizing marks with
  | nil => cases member
  | cons d rest ih =>
    rw [marked, List.mem_append] at member
    rcases member with front | later
    · split at front
      · rcases List.mem_cons.mp front with rfl | under
        · exact .inl List.mem_cons_self
        · exact .inr (List.mem_singleton.mp under)
      · exact .inl (List.mem_singleton.mp front ▸ List.mem_cons_self)
    · exact (ih later).imp_left (List.mem_cons_of_mem _)

theorem snakeChars_eq (s : List Char) : snakeChars s = lower (parted s) := by
  rw [snakeChars, markCapitals_markWords .between s (.inl (by decide))]

theorem snakeChars_snakeChars (ascii : ∀ c ∈ s, c.toNat < 128) :
    snakeChars (snakeChars s) = snakeChars s := by
  have parts : ∀ c ∈ parted s, c.toNat < 128 := by
    intro c member
    rcases mem_marked member with inside | rfl
    · exact ascii c inside
    · decide
  have lowered : snakeChars s = (parted s).map Char.toLower := by
    rw [snakeChars_eq, lower_of_ascii _ parts]
  have small : ∀ c ∈ snakeChars s, c.toNat < 128 ∧ isCapital c = false ∧ c.toLower = c := by
    rw [lowered]
    exact List.forall_mem_map.mpr fun c member => toLower_ascii (parts c member)
  have whole : parted (snakeChars s) = snakeChars s :=
    marked_of_none (endsWord_of_none fun c member => (small c member).2.1)
  rw [snakeChars_eq (snakeChars s), whole, lower_of_ascii _ fun c member => (small c member).1]
  exact (List.map_congr_left fun c member => (small c member).2.2).trans (List.map_id' _)

/-! ### Names -/

/-- Where a character of the text stands once the words are parted: behind the underscores that come
before it. -/
def partedPlace (s : List Char) (i : Nat) : Nat :=
  i + Nat.count (fun i => endsWord s i = true) i

/-- A name in small letters is the lowered text that has one underscore after each character that a
word ends with, and nothing else added. It is what two passes make of the name that replace words,
and then capitals, from left to right and without overlap. -/
theorem snakeCase_parts_words (name : String) :
    (∀ text, (∃ first, Replaced word? name.toList first ∧ Replaced capital? first text) ↔
      text = parted name.toList) ∧
    (snakeCase name).toList = lower (parted name.toList) ∧
    (∀ i c, name.toList[i]? = some c →
      (parted name.toList)[partedPlace name.toList i]? = some c) ∧
    (∀ i, endsWord name.toList i = true →
      (parted name.toList)[partedPlace name.toList i + 1]? = some '_') ∧
    (parted name.toList).length = partedPlace name.toList name.toList.length ∧
    ((∀ c ∈ name.toList, c.toNat < 128) → snakeCase (snakeCase name) = snakeCase name) := by
  have passes : markCapitals (markWords .between name.toList) = parted name.toList :=
    markCapitals_markWords .between name.toList (.inl (by decide))
  refine ⟨fun text => ⟨?_, ?_⟩, ?_, fun i c here => (getElem?_marked _ here).1, fun i ends => ?_,
    length_marked _ _, fun ascii => ?_⟩
  · rintro ⟨first, words, capitals⟩
    obtain rfl := words.unique rfl (replaced_markWords name.toList)
    exact (capitals.unique rfl (replaced_markCapitals _)).trans passes
  · rintro rfl
    exact ⟨_, replaced_markWords name.toList, passes ▸ replaced_markCapitals _⟩
  · rw [snakeCase, String.toList_ofList, snakeChars_eq]
  · obtain ⟨c, here⟩ := exists_of_endsWord ends
    exact (getElem?_marked _ here).2 ends
  · rw [snakeCase, snakeCase, String.toList_ofList, snakeChars_snakeChars ascii]

theorem snakeCase_parts_words_of_server :
    snakeCase "xHTTPServerId2Go\nAb" = "x_http_server_id2_go\nab" ∧
      snakeCase (snakeCase "xHTTPServerId2Go\nAb") = snakeCase "xHTTPServerId2Go\nAb" :=
  ⟨by decide +kernel, (snakeCase_parts_words _).2.2.2.2.2 (List.all_iff_forall_prop.mp (by decide))⟩

end GraphqlRequests.Naming
