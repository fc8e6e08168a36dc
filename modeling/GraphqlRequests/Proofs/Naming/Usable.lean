import GraphqlRequests.Proofs.Naming.Distinct
import GraphqlRequests.Proofs.RequestModule.Classes
import Mathlib.Data.Bool.AllAny

/-!
# Usable identifiers

A usable identifier starts with a letter of the basic alphabet, goes on with letters, digits and
underscores, and is no reserved word. Every text of basic characters is made into one, and those that
are one already stay as they are.
-/

namespace GraphqlRequests

namespace Naming

open Text

variable {s : List Char} {c : Char}

/-- A letter, then letters, digits and underscores; no reserved word. -/
def isUsable : List Char → Bool
  | [] => false
  | c :: rest => c.isAlpha && rest.all (fun d => d.isAlphanum || d = '_') && !isReserved (c :: rest)

theorem isUsable_cons {rest : List Char} : isUsable (c :: rest) = true ↔ c.isAlpha = true ∧
    (∀ d ∈ rest, d.isAlphanum = true ∨ d = '_') ∧ isReserved (c :: rest) = false := by
  simp [isUsable, and_assoc]

theorem isReserved_append_underscore (name : List Char) : isReserved (name ++ ['_']) = false := by
  have none : ∀ word ∈ keywords ++ shadowed, word.toList.getLast? ≠ some '_' := by decide
  rw [isReserved, List.any_eq_false]
  intro word member same
  exact none word member (by rw [of_decide_eq_true same, List.getLast?_concat])

/-! ### Texts of basic characters -/

theorem isWord_of_mem_worded : ∀ c ∈ worded s, isWord c = true := by
  refine List.forall_mem_map.mpr fun c _ => ?_
  split
  · next word => exact word
  · exact isWord_underscore

theorem identifierChars_worded (s : List Char) :
    identifierChars (worded s) = identifierChars s := by
  have twice : worded (worded s) = worded s := worded_of_isWord isWord_of_mem_worded
  rw [worded] at twice
  rw [identifierChars, twice]
  rfl

theorem isPlain_of_mem_worded (ascii : ∀ c ∈ s, c.toNat < 128) :
    ∀ c ∈ worded s, isPlain c = true := by
  refine List.forall_mem_map.mpr fun c member => ?_
  split
  · next word =>
    rw [isWord_of_ascii c (ascii c member)] at word
    rw [isPlain, word, decide_eq_true (ascii c member), Bool.and_self]
  · decide

theorem isAlphanum_of_isPlain (plain : isPlain c = true) : c.isAlphanum = true ∨ c = '_' := by
  simp only [isPlain, Bool.and_eq_true, Bool.or_eq_true, decide_eq_true_eq] at plain
  exact plain.2

theorem isAlpha_of_isPlain (plain : isPlain c = true) (starts : startsName c = true)
    (other : c ≠ '_') : c.isAlpha = true := by
  have digit : c.isDigit = false := (startsName_iff plain).mp starts
  have letter := (isAlphanum_of_isPlain plain).resolve_right other
  rwa [Char.isAlphanum, digit, Bool.or_false] at letter

theorem isUsable_of_isPlain (plain : ∀ c ∈ s, isPlain c = true) :
    isUsable (identifierChars s) = true := by
  have named := isName_identifierChars plain
  obtain ⟨c, rest, other, letters, shape⟩ := identifierChars_shape s
  have basic : ∀ d ∈ c :: rest, isPlain d = true := by
    have extra : ∀ d ∈ added, isPlain d = true := List.all_eq_true.mp (by decide)
    exact fun d member => (letters d member).2.elim (plain d) (extra d)
  obtain ⟨here, later⟩ := List.forall_mem_cons.mp basic
  have tail : ∃ more, identifierChars s = c :: more ∧
      (∀ d ∈ more, d.isAlphanum = true ∨ d = '_') ∧ isReserved (c :: more) = false := by
    rcases shape with ends | ⟨whole, free⟩
    · refine ⟨rest ++ ['_'], ends, fun d member => ?_, isReserved_append_underscore (c :: rest)⟩
      rcases List.mem_append.mp member with inside | under
      · exact isAlphanum_of_isPlain (later d inside)
      · exact .inr (List.mem_singleton.mp under)
    · exact ⟨rest, whole, fun d member => isAlphanum_of_isPlain (later d member), free⟩
  obtain ⟨more, chars, others, free⟩ := tail
  rw [Source.isName, String.toList_ofList, chars, Source.isWordText, Bool.and_eq_true,
    Bool.and_eq_true] at named
  rw [chars, isUsable_cons]
  exact ⟨isAlpha_of_isPlain here named.1.1 other, others, free⟩

theorem isUsable_identifierChars (ascii : ∀ c ∈ s, c.toNat < 128) :
    isUsable (identifierChars s) = true := by
  rw [← identifierChars_worded]
  exact isUsable_of_isPlain (isPlain_of_mem_worded ascii)

theorem isDigit_of_isAlpha (letter : c.isAlpha = true) (plain : isPlain c = true) :
    isDigit c = false :=
  of_isPlain (fun c => c.isAlpha = true → isDigit c = false) plain (by decide) letter

theorem identifierChars_of_isUsable (usable : isUsable s = true) : identifierChars s = s := by
  cases s with
  | nil => cases usable
  | cons c rest =>
    obtain ⟨letter, others, free⟩ := isUsable_cons.mp usable
    have plain : ∀ d ∈ c :: rest, isPlain d = true := by
      refine fun d member => isPlain_of_continuesName ?_
      rw [Sdl.continuesName, Bool.or_eq_true, decide_eq_true_eq]
      rcases List.mem_cons.mp member with rfl | later
      · exact .inl (by rw [Char.isAlphanum, letter, Bool.true_or])
      · exact others d later
    have whole : (c :: rest).map (fun d => if isWord d then d else '_') = c :: rest :=
      worded_of_isPlain plain
    have other : c ≠ '_' := by
      rintro rfl
      cases letter
    have digit : isDigit c = false := isDigit_of_isAlpha letter (plain c List.mem_cons_self)
    rw [identifierChars, whole]
    simp [other, digit, free]

theorem head?_ne_of_isUsable (usable : isUsable s = true) : s.head? ≠ some '_' := by
  cases s with
  | nil => cases usable
  | cons c rest =>
    rintro first
    obtain rfl := Option.some.inj first
    cases (isUsable_cons.mp usable).1

/-! ### Names of attributes and members -/

theorem isUsable_underscored {name : String} (usable : isUsable name.toList = true) (n : Nat) :
    isUsable (underscored name n).toList = true := by
  refine of_underscored (fun name => isUsable name.toList = true) (fun name usable => ?_) usable n
  rw [String.toList_append, show "_".toList = ['_'] from rfl]
  cases chars : name.toList with
  | nil =>
    rw [chars] at usable
    cases usable
  | cons c rest =>
    rw [chars] at usable
    obtain ⟨letter, others, -⟩ := isUsable_cons.mp usable
    refine isUsable_cons.mpr ⟨letter, fun d member => ?_, isReserved_append_underscore (c :: rest)⟩
    rcases List.mem_append.mp member with inside | under
    · exact others d inside
    · exact .inr (List.mem_singleton.mp under)

theorem isUsable_attributeName {name : String} (named : Sdl.isName name.toList = true) :
    isUsable (attributeName name).toList = true := by
  rw [attributeName, String.toList_ofList]
  exact isUsable_of_isPlain (snakeChars_plain (isPlain_of_isName named)).1

theorem isUsable_enumMemberName {value : String} (named : Sdl.isName value.toList = true) :
    isUsable (enumMemberName value).toList = true := by
  have plain := (snakeChars_plain (isPlain_of_isName named)).1
  rw [enumMemberName, String.toList_ofList,
    upper_of_ascii _ fun c member => ascii_of_isPlain (plain c member)]
  exact isUsable_of_isPlain (List.forall_mem_map.mpr fun c member =>
    (toUpper_isPlain (plain c member)).1)

/-! ### Every name -/

/-- A text of basic characters becomes a usable identifier, and a usable identifier stays as it is.
So what attributes and members of enums are called is usable, and underscores that tell attributes
apart leave it so; no such name starts with an underscore. -/
theorem identifier_usable :
    (∀ name : String, (∀ c ∈ name.toList, c.toNat < 128) →
      isUsable (identifier name).toList = true ∧
        identifier (identifier name) = identifier name) ∧
    (∀ name : String, isUsable name.toList = true → identifier name = name) ∧
    (∀ name : String, Sdl.isName name.toList = true →
      isUsable (attributeName name).toList = true ∧ isUsable (enumMemberName name).toList = true) ∧
    ∀ (reserved : List String) (attributes : List Attribute),
      (∀ a ∈ attributes, ∃ name, Sdl.isName name.toList = true ∧ a.name = attributeName name) →
      ∀ a ∈ RequestModule.distinctAttributes reserved attributes,
        isUsable a.name.toList = true ∧ a.name.toList.head? ≠ some '_' := by
  have kept : ∀ name : String, isUsable name.toList = true → identifier name = name := by
    intro name usable
    rw [identifier, identifierChars_of_isUsable usable, String.ofList_toList]
  have made : ∀ name : String, (∀ c ∈ name.toList, c.toNat < 128) →
      isUsable (identifier name).toList = true := by
    intro name ascii
    rw [identifier, String.toList_ofList]
    exact isUsable_identifierChars ascii
  refine ⟨fun name ascii => ⟨made name ascii, kept _ (made name ascii)⟩, kept,
    fun name named => ⟨isUsable_attributeName named, isUsable_enumMemberName named⟩, ?_⟩
  intro reserved attributes each a member
  have usable : isUsable a.name.toList = true := by
    refine @RequestModule.forall_name_distinctAttributes (fun name => isUsable name.toList = true)
      (fun name n usable => isUsable_underscored usable n) _ _ (fun b given => ?_) a member
    obtain ⟨name, named, called⟩ := each b given
    rw [called]
    exact isUsable_attributeName named
  exact ⟨usable, head?_ne_of_isUsable usable⟩

def classes : List Attribute :=
  ["class", "_class"].map fun name => ⟨attributeName name, name, .named "str", .null⟩

theorem identifier_usable_of_classes :
    identifier "__1-for" = "n1_for_" ∧ identifier (identifier "__1-for") = identifier "__1-for" ∧
      identifier "for_" = "for_" ∧ isUsable (attributeName "__typename").toList = true ∧
      (RequestModule.distinctAttributes [] classes).map (·.name) = ["class_", "class__"] ∧
      ∀ a ∈ RequestModule.distinctAttributes [] classes, isUsable a.name.toList = true := by
  obtain ⟨made, kept, named, attributes⟩ := identifier_usable
  refine ⟨by decide +kernel, (made "__1-for" (List.all_iff_forall_prop.mp (by decide))).2,
    kept "for_" (by decide), (named "__typename" (by decide)).1, by decide +kernel,
    fun a member => ?_⟩
  have each : ∀ a ∈ classes, ∃ name, Sdl.isName name.toList = true ∧ a.name = attributeName name :=
    List.forall_mem_map.mpr fun name listed => ⟨name, by revert name; decide, rfl⟩
  exact (attributes [] classes each a member).1

end Naming

end GraphqlRequests
