import GraphqlRequests.Proofs.Selection.Fragment

/-!
# When selections fail

A configured selection fails for the requested names that are no fields of its type, and for nothing
else. What is selected is rendered unless a field refers to an interface or a union; in a proper
schema such a field offends.
-/

namespace GraphqlRequests

variable {ν : Type} [DecidableEq ν] [Name ν]
variable {config : Config} {schema : Schema ν} {object : ObjectType ν} {field : Field ν}

/-- The names requested of an object type that are no fields of it. -/
def Config.unknownFields (config : Config) (object : ObjectType ν) : List String :=
  ((config.selectionFor (Name.text object.name)).getD []).filter fun name =>
    Name.ofText name ∉ object.fieldNames

theorem Selection.ofNames_eq (usable : ∀ field ∈ object.fields, Name.isKey field.name = true)
    (names : List String) : ofNames object names =
      let unknown := names.filter fun name => Name.ofText name ∉ object.fieldNames
      if unknown = [] then
        .ok (if names = [] then .all object
          else ⟨object, object.fieldNames.filter (· ∈ names.map Name.ofText)⟩)
      else .error (.unknownFields ⟨Name.shown object.name, unknown⟩) := by
  have keys : object.fieldNames.all Name.isKey = true := by
    simpa [ObjectType.fieldNames] using usable
  unfold ofNames
  by_cases known : names.filter (fun name => Name.ofText name ∉ object.fieldNames) = []
  · simp only [known, keys, ne_eq, not_true_eq_false, if_false, Bool.not_true, if_true,
      Bool.false_eq_true]
    by_cases every : names = []
    · simp only [every, if_true]
    · simp only [every, if_false]
  · simp only [known, ne_eq, not_false_eq_true, if_true, if_false]

theorem Config.selection_eq (usable : ∀ field ∈ object.fields, Name.isKey field.name = true) :
    config.selection object =
      if config.unknownFields object = [] then
        .ok ⟨object, (config.selectedFields object).map (·.name)⟩
      else .error (.unknownFields ⟨Name.shown object.name, config.unknownFields object⟩) := by
  have outcome : config.selection object = _ := congrArg (·.mapError PlanFailure.ofSelect)
    (Selection.ofNames_eq usable ((config.selectionFor (Name.text object.name)).getD []))
  by_cases known : config.unknownFields object = []
  · obtain ⟨selection, made⟩ : ∃ selection, config.selection object = .ok selection := by
      unfold unknownFields at known
      simp only [known, if_true] at outcome
      exact ⟨_, outcome⟩
    rw [made, selection_ok made, if_pos known]
  · rw [if_neg known, outcome]
    unfold unknownFields at known ⊢
    simp only [known, if_false]
    rfl

/-! ### Rendering -/

theorem ObjectType.exists_field? {name : ν} (declared : name ∈ object.fieldNames) :
    ∃ field, object.field? name = some field := by
  obtain ⟨field, member, rfl⟩ := List.mem_map.mp declared
  rw [← Option.isSome_iff_exists, ObjectType.field?, List.find?_isSome]
  exact ⟨field, member, by simp⟩

omit [DecidableEq ν] in
theorem renderField_error {e : RenderFailure} :
    Selection.renderField field = .error e ↔ field.type.innermost.kind.isAbstract = true ∧
      e = .abstractField ⟨field.type.innermost.kind, Name.shown field.type.innermost.name,
        Name.shown field.name⟩ := by
  unfold Selection.renderField
  by_cases abstract : field.type.innermost.kind.isAbstract = true
  · have composite : field.type.innermost.kind.isLeaf = false := by
      cases kind : field.type.innermost.kind <;> simp_all [TypeKind.isAbstract, TypeKind.isLeaf]
    simp only [composite, abstract, if_true, Bool.false_eq_true, if_false, true_and,
      Except.error.injEq]
    exact eq_comm
  · simp only [abstract, Bool.false_eq_true, if_false, false_and, iff_false]
    split <;> simp

/-- No selected field is lost. Each is rendered as the first of its name, and this is at fault where
they are not rendered together. -/
theorem renderFields_error {e : RenderFailure}
    (failed : Selection.renderFields ⟨object, (config.selectedFields object).map (·.name)⟩
      = .error e) :
    ∃ name ∈ (config.selectedFields object).map (·.name), ∃ field,
      object.field? name = some field ∧ Selection.renderField field = .error e := by
  obtain ⟨name, member, failed⟩ := mapM_error failed
  obtain ⟨field, selected, rfl⟩ := List.mem_map.mp member
  obtain ⟨found, here⟩ := ObjectType.exists_field?
    (List.mem_map_of_mem (Config.mem_of_mem_selectedFields selected))
  simp only [here] at failed
  exact ⟨field.name, member, found, here, failed⟩

theorem fragment_error {object : ObjectType String} {selection : Selection String}
    (made : config.selection object = .ok selection) {e : RenderFailure}
    (failed : selection.fragment = .error e) :
    ∃ name ∈ (config.selectedFields object).map (·.name), ∃ field,
      object.field? name = some field ∧ Selection.renderField field = .error e := by
  obtain rfl := Config.selection_ok made
  rcases bind_error failed with render | ⟨rendered, -, failed⟩
  · exact renderFields_error render
  rcases bind_error failed with lines | ⟨fields, -, failed⟩
  · obtain ⟨text, -, failed⟩ := mapM_error lines
    cases failed
  · cases failed

/-! ### Proper object types -/

namespace ObjectType.Proper

variable (declared : object.Proper schema)
include declared

theorem isKey (member : field ∈ object.fields) : Name.isKey field.name = true := by
  obtain ⟨text, same, -⟩ := declared.fields field member
  rw [same, Name.isKey_ofText]

theorem exists_renderField (member : field ∈ object.fields)
    (fine : schema.offends field = false) :
    ∃ rendered, Selection.renderField field = .ok rendered := by
  obtain ⟨type, resolved⟩ := Schema.offends_eq_false.mp fine
  obtain ⟨-, found, concrete⟩ := Schema.returnType_ok.mp resolved
  rw [← declared.kind field member type found] at concrete
  rw [Selection.renderField, concrete]
  split
  · exact ⟨_, rfl⟩
  · exact ⟨_, rfl⟩

theorem exists_fragment (config : Config)
    (fine : ∀ field ∈ object.fields, schema.offends field = false) :
    ∃ body, Selection.fragment ⟨object, (config.selectedFields object).map (·.name)⟩
      = .ok body := by
  obtain ⟨rendered, render⟩ : ∃ rendered, Selection.renderFields
      ⟨object, (config.selectedFields object).map (·.name)⟩ = .ok rendered := by
    refine exists_mapM_ok fun name member => ?_
    obtain ⟨field, selected, rfl⟩ := List.mem_map.mp member
    have inside := Config.mem_of_mem_selectedFields selected
    simp only [declared.field?_name inside]
    exact declared.exists_renderField inside (fine field inside)
  obtain ⟨fields, lines⟩ : ∃ fields, rendered.mapM Selection.fieldLines = .ok fields := by
    rw [renderFields_ok declared.fields declared.distinct
      (fun _ => Config.mem_of_mem_selectedFields) render]
    refine exists_mapM_ok fun text member => ?_
    obtain ⟨field, -, rfl⟩ := List.mem_map.mp member
    simp only [Selection.fieldLines, Name.text?_ofText]
    exact ⟨_, rfl⟩
  rw [Selection.fragment, render]
  simp only [bind, Except.bind, lines]
  exact ⟨_, rfl⟩

end ObjectType.Proper

end GraphqlRequests
