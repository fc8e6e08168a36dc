import GraphqlRequests.Proofs.Naming.Distinct
import GraphqlRequests.Proofs.Naming.Members
import GraphqlRequests.Proofs.RequestModule.Classes

/-!
# Members of the written classes

The members of a class can be read off its lines. An enum has one for each of its values, but the
names of two are the same where the words of the values are.
-/

namespace GraphqlRequests.RequestModule

open Text (isWord)
open Naming (Namelike enumMemberName memberWords)

/-! ### Reading members -/

/-- The word in front, where a colon, a bracket or a blank ends it. -/
def frontWord? (s : List Char) : Option String :=
  let word := s.takeWhile isWord
  if word ≠ [] ∧ (s.dropWhile isWord).head?.any (· ∈ [':', '(', ' ']) then
    some (String.ofList word)
  else none

/-- The member that a line in the body of a class is the first one of. -/
def memberOf? (line : String) : Option String :=
  if line.toList.take 4 = "    ".toList then
    match frontWord? (line.toList.drop 4) with
    | some "def" => frontWord? (line.toList.drop 8)
    | member => member
  else none

theorem frontWord?_append {name : String} (some : name ≠ "")
    (words : ∀ c ∈ name.toList, isWord c = true) {stop : Char} (ends : stop ∈ [':', '(', ' '])
    (rest : List Char) : frontWord? (name.toList ++ stop :: rest) = .some name := by
  have other : isWord stop = false := by
    have all : ∀ c ∈ [':', '(', ' '], isWord c = false := by simp [Text.isWord_of_ascii]
    exact all stop ends
  have front : name.toList ≠ [] := fun empty => some (by simpa using empty)
  rw [frontWord?, List.takeWhile_append_of_pos words, List.dropWhile_append_of_pos words,
    List.takeWhile_cons_of_neg (by simp [other]), List.dropWhile_cons_of_neg (by simp [other]),
    List.append_nil, if_pos ⟨front, by simpa using ends⟩, String.ofList_toList]

theorem memberOf?_named {line name : String} (stop : Char) (namelike : Namelike name)
    (ends : stop ∈ [':', '(', ' '])
    (chars : ∃ rest, line.toList = "    ".toList ++ (name.toList ++ stop :: rest)) :
    memberOf? line = some name := by
  obtain ⟨rest, chars⟩ := chars
  have front := frontWord?_append namelike.some namelike.words ends rest
  have indented : line.toList.take 4 = "    ".toList := by
    rw [chars, List.take_left' (by decide)]
  have body : line.toList.drop 4 = name.toList ++ stop :: rest := by
    rw [chars, List.drop_left' (by decide)]
  rw [memberOf?, if_pos indented, body, front]
  split
  · next same => exact absurd (Option.some.inj same) namelike.other
  · rfl

theorem memberOf?_method {line name : String} (namelike : Namelike name)
    (chars : ∃ rest, line.toList = "    def ".toList ++ (name.toList ++ '(' :: rest)) :
    memberOf? line = some name := by
  obtain ⟨rest, chars⟩ := chars
  have keyword : frontWord? ("def".toList ++ ' ' :: (name.toList ++ '(' :: rest)) = some "def" :=
    frontWord?_append (by decide) (List.all_eq_true.mp (by decide)) (by simp) _
  have indented : line.toList.take 4 = "    ".toList := by
    rw [chars, List.take_append_of_le_length (by decide)]
    decide
  have body : line.toList.drop 4 = "def".toList ++ ' ' :: (name.toList ++ '(' :: rest) := by
    rw [chars, List.drop_append_of_le_length (by decide)]
    rfl
  rw [memberOf?, if_pos indented, body, keyword, chars, List.drop_left' (by decide)]
  exact frontWord?_append namelike.some namelike.words (by simp) rest

theorem memberOf?_none {line : String} (first : Char) (other : isWord first = false)
    (chars : ∃ rest, line.toList = "    ".toList ++ first :: rest) : memberOf? line = none := by
  obtain ⟨rest, chars⟩ := chars
  have body : line.toList.drop 4 = first :: rest := by
    rw [chars, List.drop_left' (by decide)]
  have front : frontWord? (first :: rest) = none := by
    rw [frontWord?, List.takeWhile_cons_of_neg (by simp [other])]
    exact if_neg fun some => some.1 rfl
  rw [memberOf?, body, front]
  split <;> rfl

theorem memberOf?_comment (description : Json) :
    (commentLines description).filterMap memberOf? = [] := by
  rw [List.filterMap_eq_nil_iff]
  intro line member
  rw [commentLines] at member
  obtain ⟨text, -, rfl⟩ := List.mem_map.mp member
  exact memberOf?_none '#' (by decide) ⟨_, String.toList_append ..⟩

theorem memberOf?_docstringLine (body : String) : memberOf? (docstringLine body) = none := by
  refine memberOf?_none '"' (by decide) ?_
  simp only [docstringLine, String.toList_append, List.append_assoc]
  exact ⟨_, rfl⟩

theorem memberOf?_docstring (description : Json) :
    (docstringLines description).filterMap memberOf? = [] := by
  rw [docstringLines]
  split
  · rw [List.filterMap_cons_none (memberOf?_docstringLine _)]
    rfl
  · rfl

theorem memberOf?_outside {line : String} (outside : line.toList.take 4 ≠ "    ".toList) :
    memberOf? line = none :=
  if_neg outside

theorem memberOf?_className (name more : String) : memberOf? ("class " ++ name ++ more) = none := by
  refine memberOf?_outside ?_
  rw [String.append_assoc, String.toList_append, List.take_append_of_le_length (by decide)]
  decide

theorem memberOf?_empty : memberOf? "" = none :=
  memberOf?_outside (by decide)

theorem filterMap_members {α : Type} {lines : α → List String} {name : α → String} {list : List α}
    (each : ∀ a ∈ list, (lines a).filterMap memberOf? = [name a]) :
    (list.flatMap lines).filterMap memberOf? = list.map name := by
  rw [List.filterMap_flatMap, List.map_eq_flatMap]
  exact List.flatMap_congr each

theorem members_attributeLines {a : Attribute} (namelike : Namelike a.name) :
    (attributeLines a).filterMap memberOf? = [a.name] := by
  rw [attributeLines, List.filterMap_append, memberOf?_comment, List.nil_append]
  refine List.filterMap_cons_some (memberOf?_named ':' namelike (by simp) ?_)
  simp only [String.toList_append, List.append_assoc]
  exact ⟨_, rfl⟩

/-! ### Members of enums -/

theorem members_enumLines {enum : EnumClass}
    (namelike : ∀ member ∈ enum.members, Namelike member.name) :
    (enumLines enum).filterMap memberOf? = enum.members.map (·.name) := by
  have opening : ["", "", "class " ++ enum.name ++ "(str, _enum.Enum):"].filterMap memberOf?
      = [] := by
    simp [memberOf?_empty, memberOf?_className]
  rw [enumLines, List.filterMap_append, List.filterMap_append, opening, memberOf?_docstring,
    List.nil_append, List.nil_append]
  refine filterMap_members fun member listed => ?_
  rw [List.filterMap_append, memberOf?_comment, List.nil_append]
  refine List.filterMap_cons_some (memberOf?_named ' ' (namelike member listed) (by simp) ?_)
  simp only [String.toList_append, List.append_assoc]
  exact ⟨_, rfl⟩

/-- The class of an enum has a member for each value, in order. The members are identifiers, and
those for values in capitals are called as these. Two have one name just where the words of their
values are the same. -/
theorem enumMembers_nodup_iff {type : NamedType String} {values : List (EnumValue String)}
    (body : type.body = .enum values)
    (named : ∀ value ∈ values, Sdl.isName value.name.toList = true) :
    ∃ enum, enumClass type = .ok enum ∧
      (enumLines enum).filterMap memberOf? = enum.members.map (·.name) ∧
      enum.members.map (·.value) = values.map (·.name) ∧
      (∀ member ∈ enum.members, Source.isName member.name = true ∧
        (Naming.InCapitals member.value → member.name = member.value)) ∧
      ((enum.members.map (·.name)).Nodup ↔
        (values.map fun value => memberWords value.name).Nodup) := by
  have members : (ofEnum type).members = values.map fun value =>
      ⟨enumMemberName value.name, value.name, value.description⟩ := by
    simp only [ofEnum, body]
  refine ⟨ofEnum type, enumClass_eq type, members_enumLines ?_, ?_, ?_, ?_⟩ <;> rw [members]
  · intro member listed
    obtain ⟨value, -, rfl⟩ := List.mem_map.mp listed
    exact Naming.namelike_identifierChars _
  · rw [List.map_map]
    rfl
  · intro member listed
    obtain ⟨value, own, rfl⟩ := List.mem_map.mp listed
    exact ⟨Naming.isName_enumMemberName (named value own), Naming.enumMemberName_of_inCapitals⟩
  · rw [List.map_map]
    simp only [List.nodup_iff_pairwise_ne, List.pairwise_map]
    refine List.Pairwise.iff_of_mem fun {value other} own also => ?_
    exact (Naming.enumMemberName_eq_iff (named value own) (named other also)).not

theorem enumMembers_nodup_iff_of_rigs :
    let rigs : NamedType String :=
      ⟨"Rig", .null, .enum [{ name := "SLOOP" }, { name := "gaffRig" }, { name := "_other" }]⟩
    ∃ enum, enumClass rigs = .ok enum ∧ (enum.members.map (·.name)).Nodup := by
  intro rigs
  have body : rigs.body
      = .enum [{ name := "SLOOP" }, { name := "gaffRig" }, { name := "_other" }] := rfl
  obtain ⟨enum, made, -, -, -, different⟩ := enumMembers_nodup_iff body (by decide)
  exact ⟨enum, made, different.mpr (by decide)⟩

/-- Two values, and one name for both of their members. -/
theorem enumClass_twins :
    let twins : NamedType String :=
      ⟨"Rig", .null, .enum [{ name := "FOO_BAR" }, { name := "fooBar" }]⟩
    ∃ enum, enumClass twins = .ok enum ∧ enum.members.map (·.value) = ["FOO_BAR", "fooBar"] ∧
      (∀ value ∈ ["FOO_BAR", "fooBar"], Sdl.isName value.toList = true) ∧
      ["FOO_BAR", "fooBar"].Nodup ∧ ¬(enum.members.map (·.name)).Nodup := by
  intro twins
  exact ⟨ofEnum twins, enumClass_eq twins, by decide, by decide, by decide, by decide⟩

end GraphqlRequests.RequestModule
