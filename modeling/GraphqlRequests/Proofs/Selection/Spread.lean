import GraphqlRequests.Proofs.Fragment.Spread
import GraphqlRequests.Proofs.Selection.Fragment

/-!
# Spreads in rendered selections

Whatever fields of an object type are selected, the text of the fragment spreads exactly the types
that a selected field refers to as object types. Types may be named like fields, or like the
fragments of other types. Nothing is asked of the schema: that it has such types, or that they are of
the kind that the references say.
-/

namespace GraphqlRequests

variable {ν : Type} [Name ν]

/-- All names in an object type are names of the query language, no two fields have one name, and
fields refer to output types. -/
structure ObjectType.Legible (object : ObjectType ν) : Prop where
  named : Name.Written object.name
  fields : ∀ field ∈ object.fields, Name.Written field.name
  distinct : object.fieldNames.Nodup
  references : ∀ field ∈ object.fields, Name.Written field.type.innermost.name
  output : ∀ field ∈ object.fields, field.type.innermost.kind.isOutput = true

variable {object : ObjectType ν} {fields : List (Field ν)}

namespace ObjectType.Legible

variable (legible : object.Legible) (inside : ∀ field ∈ fields, field ∈ object.fields)
include legible inside

theorem named_items : Document.Named (fields.map Config.item) :=
  GraphqlRequests.named_items
    (fun field member => (legible.fields field (inside field member)).isName_shown)
    fun field member _ => (legible.references field (inside field member)).isName_shown

theorem definition_named : (object.definition fields).Named :=
  ⟨isName_key legible.named.isName_shown, legible.named.isName_shown, legible.named_items inside⟩

end ObjectType.Legible

variable [DecidableEq ν] {selection : Selection ν} {body : String}

theorem Selection.exists_fields (legible : selection.type.Legible)
    (done : selection.fragment = .ok body) : ∃ fields : List (Field ν),
      selection = ⟨selection.type, fields.map (·.name)⟩ ∧
      (∀ field ∈ fields, field ∈ selection.type.fields) ∧
      ∀ field ∈ fields, field.type.innermost.kind.isLeaf = true ∨
        field.type.innermost.kind = .object := by
  obtain ⟨rendered, render, -⟩ := bind_ok done
  have each : ∀ name ∈ selection.selected, ∃ field, (field ∈ selection.type.fields ∧
      (field.type.innermost.kind.isLeaf = true ∨ field.type.innermost.kind = .object)) ∧
      field.name = name := by
    intro name member
    obtain ⟨result, shown⟩ := exists_ok_of_mapM render name member
    cases found : selection.type.field? name with
    | none =>
      simp only [found] at shown
      cases shown
    | some field =>
      simp only [found] at shown
      have inside : field ∈ selection.type.fields := List.mem_of_find?_eq_some found
      have same : Name.key field.name = Name.key name := by simpa using List.find?_some found
      have output := legible.output field inside
      refine ⟨field, ⟨inside, ?_⟩, (legible.fields field inside).eq_of_key same⟩
      cases kind : field.type.innermost.kind <;>
        simp_all [Selection.renderField, TypeKind.isLeaf, TypeKind.isAbstract, TypeKind.isOutput]
  obtain ⟨fields, names, all⟩ := exists_map_eq each
  refine ⟨fields, ?_, fun field member => (all field member).1, fun field member =>
    (all field member).2⟩
  obtain ⟨type, selected⟩ := selection
  rw [names]

/-- The text of a rendered selection spreads exactly the types that selected fields refer to as
object types. -/
theorem Selection.spreads_fragment (legible : selection.type.Legible)
    (done : selection.fragment = .ok body) {type : String} (named : Sdl.isName type.toList = true) :
    Fragment.spreads body (Fragment.key type) = true ↔
      ∃ field ∈ selection.type.fields, field.name ∈ selection.selected ∧
        field.type.innermost = ⟨.object, Name.ofText type⟩ := by
  obtain ⟨fields, whole, inside, concrete⟩ := selection.exists_fields legible done
  rw [whole] at done
  have unbroken : '\n' ∉ (Fragment.key type).toList :=
    Document.not_mem_of_isName (isName_key named) rfl
  obtain rfl := Selection.fragment_ok legible.fields legible.distinct inside
    (legible.named_items inside) done
  rw [Fragment.spreads_unlines (legible.definition_named inside) unbroken, decide_eq_true_eq,
    ObjectType.definition, mem_spreads_items]
  constructor
  · rintro ⟨field, member, composite, key⟩
    have written := legible.references field (inside field member)
    refine ⟨field, inside field member, ?_, ?_⟩
    · rw [whole]
      exact List.mem_map_of_mem member
    · have kind := (concrete field member).resolve_left (by simp [composite])
      rw [← key_injective key, written.ofText_shown, ← kind]
  · rintro ⟨field, declared, selected, refers⟩
    rw [whole] at selected
    obtain ⟨other, member, same⟩ := List.mem_map.mp selected
    obtain rfl := List.inj_on_of_nodup_map legible.distinct (inside other member) declared same
    refine ⟨other, member, ?_, ?_⟩
    · rw [refers]
      rfl
    · rw [refers, Name.shown_ofText]

end GraphqlRequests
