import GraphqlRequests.Proofs.Naming.Identifiers
import Mathlib.Data.List.Nodup
import Mathlib.Data.List.Perm.Subperm

/-!
# Distinct names

`free` finds a name that is not taken, for however many are, and so `distinct` gives each attribute
a name of its own. All such names are words.
-/

namespace GraphqlRequests.Naming

open Text

/-! ### Names that are not taken -/

theorem underscored_injective (name : String) : Function.Injective (underscored name) := by
  intro n m same
  have chars := congrArg String.length same
  simpa [underscored] using chars

theorem taken_of_freeFrom (taken : List String) (name : String) (n count : Nat)
    (found : underscored name (freeFrom taken name n count) ∈ taken) :
    ∀ i ≤ count, underscored name (n + i) ∈ taken := by
  induction count generalizing n with
  | zero =>
    intro i bound
    obtain rfl : i = 0 := Nat.le_zero.mp bound
    exact found
  | succ count ih =>
    rw [freeFrom] at found
    split at found
    · next here =>
      intro i bound
      cases i with
      | zero => exact here
      | succ i =>
        have later := ih (n + 1) found i (by omega)
        rwa [show n + (i + 1) = n + 1 + i by omega]
    · next other => exact absurd found other

theorem free_notMem (taken : List String) (name : String) : free taken name ∉ taken := by
  intro found
  have all := taken_of_freeFrom taken name 0 taken.length found
  -- So many different names do not fit into the list.
  have different : ((List.range (taken.length + 1)).map (underscored name)).Nodup :=
    List.nodup_range.map (underscored_injective name)
  have inside : (List.range (taken.length + 1)).map (underscored name) ⊆ taken := by
    intro candidate member
    obtain ⟨i, bound, rfl⟩ := List.mem_map.mp member
    have := all i (Nat.lt_succ_iff.mp (List.mem_range.mp bound))
    rwa [Nat.zero_add] at this
  have lengths := (different.subperm inside).length_le
  rw [List.length_map, List.length_range] at lengths
  omega

theorem distinct_notMem {reserved names : List String} :
    ∀ name ∈ distinct reserved names, name ∉ reserved := by
  induction names generalizing reserved with
  | nil => simp [distinct]
  | cons name rest ih =>
    refine List.forall_mem_cons.mpr ⟨free_notMem reserved name, fun other member taken => ?_⟩
    exact ih other member (List.mem_cons_of_mem _ taken)

theorem nodup_distinct (reserved names : List String) : (distinct reserved names).Nodup := by
  induction names generalizing reserved with
  | nil => exact List.nodup_nil
  | cons name rest ih =>
    refine List.nodup_cons.mpr ⟨fun member => ?_, ih _⟩
    exact distinct_notMem _ member List.mem_cons_self

/-! ### Words -/

structure Namelike (name : String) : Prop where
  some : name ≠ ""
  other : name ≠ "def"
  words : ∀ c ∈ name.toList, isWord c = true

theorem isWord_underscore : isWord '_' = true :=
  isWord_of_isPlain (by decide)

theorem namelike_append_underscore {name : List Char} (words : ∀ c ∈ name, isWord c = true) :
    Namelike (String.ofList (name ++ ['_'])) where
  some same := by simpa using congrArg String.toList same
  other same := by
    have last := congrArg (fun text => text.toList.getLast?) same
    simp at last
  words := by simpa [or_imp, forall_and, isWord_underscore] using words

def added : List Char :=
  "_field_n".toList

/-- A character for an identifier, which the name has or which is added to it. -/
def Letter (s : List Char) (c : Char) : Prop :=
  isWord c = true ∧ (c ∈ s ∨ c ∈ added)

variable {s : List Char}

theorem letter_worded : ∀ d ∈ s.map (fun c => if isWord c then c else '_'), Letter s d := by
  intro d member
  obtain ⟨c, given, rfl⟩ := List.mem_map.mp member
  split
  · next word => exact ⟨word, .inl given⟩
  · exact ⟨isWord_underscore, .inr (by decide)⟩

theorem letter_field : ∀ d ∈ "field".toList, Letter s d := by
  have letters : "field".toList.all (fun d => isWord d && added.contains d) = true := by decide
  intro d member
  have letter := List.all_eq_true.mp letters d member
  rw [Bool.and_eq_true, List.contains_iff_mem] at letter
  exact letter.imp_right .inr

theorem exists_stripped {words : List Char} (inside : ∀ d ∈ words, Letter s d) :
    ∃ c rest, c ≠ '_' ∧ (∀ d ∈ c :: rest, Letter s d) ∧
      (if words.dropWhile (· = '_') = [] then "field".toList else words.dropWhile (· = '_'))
        = c :: rest := by
  cases stripped : words.dropWhile (· = '_') with
  | nil => exact ⟨'f', "ield".toList, by decide, letter_field, rfl⟩
  | cons c rest =>
    have first := List.head?_dropWhile_not (· = '_') words
    rw [stripped] at first
    refine ⟨c, rest, by simpa using first, fun d member => ?_, if_neg (List.cons_ne_nil c rest)⟩
    exact inside d ((List.dropWhile_sublist _).subset (stripped ▸ member))

theorem exists_undigited {c : Char} {rest : List Char} (other : c ≠ '_')
    (letters : ∀ d ∈ c :: rest, Letter s d) :
    ∃ first more, first ≠ '_' ∧ (∀ d ∈ first :: more, Letter s d) ∧
      (if (c :: rest).head?.any isDigit then 'n' :: c :: rest else c :: rest) = first :: more := by
  split
  · refine ⟨'n', c :: rest, by decide, List.forall_mem_cons.mpr ⟨?_, letters⟩, rfl⟩
    exact ⟨isWord_of_isPlain (by decide), .inr (by decide)⟩
  · exact ⟨c, rest, other, letters, rfl⟩

/-- An identifier is a word of letters that are given or added, without an underscore at its front;
it has one more at its end where it would be a reserved name. -/
theorem identifierChars_shape (s : List Char) : ∃ c rest, c ≠ '_' ∧
    (∀ d ∈ c :: rest, Letter s d) ∧
    (identifierChars s = c :: rest ++ ['_'] ∨
      identifierChars s = c :: rest ∧ isReserved (c :: rest) = false) := by
  obtain ⟨first, more, visible, inside, stripped⟩ := exists_stripped (letter_worded (s := s))
  obtain ⟨c, rest, other, letters, undigited⟩ := exists_undigited visible inside
  refine ⟨c, rest, other, letters, ?_⟩
  rw [identifierChars]
  simp only [stripped, undigited]
  split
  · exact .inl rfl
  · next unmarked => exact .inr ⟨rfl, by simpa using (not_or.mp unmarked).2⟩

theorem namelike_identifierChars (s : List Char) :
    Namelike (String.ofList (identifierChars s)) := by
  obtain ⟨c, rest, -, letters, same | ⟨same, free⟩⟩ := identifierChars_shape s
  · exact same ▸ namelike_append_underscore fun d member => (letters d member).1
  · rw [same]
    refine ⟨fun empty => ?_, fun reserved => ?_, fun d member => ?_⟩
    · simpa using congrArg String.toList empty
    · exact notMem_keywords_of_isReserved free (reserved ▸ by decide)
    · rw [String.toList_ofList] at member
      exact (letters d member).1

theorem Namelike.underscored {name : String} (namelike : Namelike name) (n : Nat) :
    Namelike (underscored name n) := by
  refine of_underscored Namelike (fun name namelike => ?_) namelike n
  rw [← String.ofList_toList (s := name ++ "_"), String.toList_append]
  exact namelike_append_underscore namelike.words

end GraphqlRequests.Naming
