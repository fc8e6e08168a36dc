import GraphqlRequests.Proofs.Document.Reading
import GraphqlRequests.Proofs.Plan.Table
import GraphqlRequests.Proofs.Text.Blank

/-!
# The document of a plan

A document opens with the operation and its root field. What follows reads as the spread of the
returned type's fragment, and the fragments of the plan.
-/

namespace GraphqlRequests

open Document (Body Definition)

/-! ### Text -/

theorem strip_definition (d : Definition) :
    String.ofList (Text.strip (Text.unlines d.lines).toList) = Text.unlines d.lines := by
  obtain ⟨head, others, starts, split⟩ : ∃ head others, head.toList.head? = some 'f' ∧
      d.lines = (head :: others) ++ ["\x7d"] :=
    ⟨_, (Document.itemLines d.items).map (Selection.indent ++ ·), by simp, rfl⟩
  obtain ⟨first, start⟩ := List.head?_eq_some_iff.mp starts
  have whole : (Text.unlines d.lines).toList
      = 'f' :: ((first ++ '\n' :: others.flatMap fun line => line.toList ++ ['\n']) ++ ['}']) := by
    have last : ("\n" ++ Text.unlines ["\x7d"]).toList = ['\n'] ++ ['}'] := rfl
    rw [split, Text.unlines_append (by simp) (by simp), String.append_assoc, String.toList_append,
      last, ← List.append_assoc, Text.toList_unlines (by simp), List.flatMap_cons, start]
    simp
  rw [Text.strip_eq_self, String.ofList_toList]
  · rw [whole]
    rintro c ⟨⟩
    rfl
  · rw [whole, ← List.cons_append, List.getLast?_concat]
    rintro c ⟨⟩
    rfl

theorem flatMap_lines_ne_nil {definitions : List Definition} (nonempty : definitions ≠ []) :
    (definitions.flatMap fun d => "" :: d.lines) ≠ [] := by
  obtain ⟨d, rest, rfl⟩ := List.exists_cons_of_ne_nil nonempty
  simp

theorem join_definitions {definitions : List Definition} (nonempty : definitions ≠ []) :
    "\n\n" ++ Text.join "\n\n" (definitions.map fun d => Text.unlines d.lines)
      = "\n" ++ Text.unlines (definitions.flatMap fun d => "" :: d.lines) := by
  have spaced : ∀ d : Definition, Text.unlines ("" :: d.lines) = "\n" ++ Text.unlines d.lines :=
    fun d => Text.join_cons "" (List.cons_ne_nil _ _)
  induction definitions with
  | nil => exact absurd rfl nonempty
  | cons d rest ih =>
    by_cases last : rest = []
    · subst last
      rw [List.flatMap_singleton, spaced, ← String.append_assoc]
      rfl
    · rw [List.map_cons, Text.join_cons _ (mt List.map_eq_nil_iff.mp last), List.flatMap_cons,
        Text.unlines_append (List.cons_ne_nil _ _) (flatMap_lines_ne_nil last), spaced]
      calc
        _ = "\n\n" ++ Text.unlines d.lines
            ++ ("\n\n" ++ Text.join "\n\n" (rest.map fun d => Text.unlines d.lines)) := by
          simp only [String.append_assoc]
        _ = "\n\n" ++ Text.unlines d.lines
            ++ ("\n" ++ Text.unlines (rest.flatMap fun d => "" :: d.lines)) := by rw [ih last]
        _ = _ := by
          simp only [← String.append_assoc]
          rfl

/-! ### The parts of the document -/

namespace Plan

variable {ν : Type} [Name ν] {plan : Plan ν}

/-- The operation with its variables, up to the root field and its arguments. -/
def opening (plan : Plan ν) : String :=
  plan.operation.kind.keyword ++ " " ++ plan.operationName ++ parenthesized plan.variableDefinitions
    ++ " \x7b\n" ++ Selection.indent ++ plan.call

/-- After its opening the document reads as the body. -/
def Reads (plan : Plan ν) (body : Body) : Prop :=
  ∃ rest, plan.document = plan.opening ++ rest ∧ Body.read rest = some body

theorem operationLines_eq {key : String} (root : plan.rootKeys = [key]) :
    Text.unlines plan.operationLines = plan.opening ++ Text.unlines
      (Body.lines ⟨[.spread key], []⟩) := by
  simp [operationLines, root, opening, Body.lines, Document.itemLines, Text.unlines, Text.join,
    String.append_assoc]

theorem operationLines_ne_nil : plan.operationLines ≠ [] := by
  simp [operationLines]

theorem document_eq_unlines {definitions : List Definition}
    (fragments : plan.fragments = definitions.map (·.entry)) :
    plan.document
      = Text.unlines (plan.operationLines ++ definitions.flatMap fun d => "" :: d.lines) := by
  have bodies : plan.fragments.map (fun e => String.ofList (Text.strip e.2.toList))
      = definitions.map fun d => Text.unlines d.lines := by
    rw [fragments, List.map_map]
    exact List.map_congr_left fun d _ => strip_definition d
  have same : plan.fragments = [] ↔ definitions = [] := by rw [fragments, List.map_eq_nil_iff]
  rw [document, renderFragments, bodies]
  by_cases none : definitions = []
  · rw [if_pos (same.mpr none), none, List.flatMap_nil, List.append_nil, String.append_empty]
  · rw [if_neg (mt same.mp none), join_definitions none,
      Text.unlines_append operationLines_ne_nil (flatMap_lines_ne_nil none)]
    simp only [String.append_assoc]

theorem document_eq {key : String} {definitions : List Definition}
    (root : plan.rootKeys = [key]) (fragments : plan.fragments = definitions.map (·.entry)) :
    plan.document = plan.opening ++ Text.unlines (Body.lines ⟨[.spread key], definitions⟩) := by
  rw [document_eq_unlines fragments]
  by_cases none : definitions = []
  · rw [none, List.flatMap_nil, List.append_nil, operationLines_eq root]
  · have split : Body.lines ⟨[.spread key], definitions⟩ = Body.lines ⟨[.spread key], []⟩
        ++ definitions.flatMap fun d => "" :: d.lines := by
      simp [Body.lines]
    have first : Body.lines ⟨[.spread key], []⟩ ≠ [] := List.cons_ne_nil _ _
    rw [Text.unlines_append operationLines_ne_nil (flatMap_lines_ne_nil none),
      operationLines_eq root, split, Text.unlines_append first (flatMap_lines_ne_nil none)]
    simp only [String.append_assoc]

end Plan

/-! ### The body -/

variable {ν : Type} [DecidableEq ν] [Name ν]
variable {config : Config} {schema : Schema ν} {operation : Operation ν} {field : Field ν}
variable {root object : ObjectType ν}
variable {plan : Plan ν} {objects : List (ObjectType ν)}

/-- On the root field the spread of the fragment for its type, and fragments for object types. -/
def Config.body (config : Config) (root : ObjectType ν) (objects : List (ObjectType ν)) : Body where
  root := [.spread (Fragment.key (Name.shown root.name))]
  definitions := objects.map config.definition

theorem Config.Planned.reads_body (planned : config.Planned schema operation field root plan)
    (fragments : plan.fragments = objects.map fun object => (config.definition object).entry)
    (named : (config.body root objects).Named) : plan.Reads (config.body root objects) := by
  refine ⟨_, Plan.document_eq planned.rootKeys ?_, Document.read_lines named⟩
  rw [fragments, List.map_map]
  rfl

theorem Config.Planned.reads (planned : config.Planned schema operation field root plan)
    (proper : schema.Proper) (returned : schema.returned? field = some root)
    (fragments : plan.fragments = objects.map fun object => (config.definition object).entry)
    (all : ∀ object, object ∈ objects ↔ config.SelectReaches schema root object) :
    plan.Reads (config.body root objects) := by
  refine planned.reads_body fragments ⟨?_, ?_⟩
  · have root := (planned.definition_named proper (.start returned)).key
    exact .spread root (key_ne_on _) .nil
  · intro d member
    obtain ⟨object, listed, rfl⟩ := List.mem_map.mp member
    exact planned.definition_named proper (((all object).mp listed).reaches returned)

end GraphqlRequests
