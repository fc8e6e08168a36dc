import GraphqlRequests.Plan
import GraphqlRequests.Proofs.Document.Lexing
import GraphqlRequests.Proofs.Outcome
import GraphqlRequests.Proofs.Schema.Proper
import GraphqlRequests.Proofs.Text.Lines

/-!
# Configured selections

What the configuration selects of each object type, what can be reached through selected fields, and
the trees of them. In a proper schema the fragment for a type is written from its definition.
-/

namespace GraphqlRequests

variable {ν : Type} [DecidableEq ν] [Name ν]

namespace Config

/-- The fields selected of an object type, in order of declaration: those that are requested, or all
where none are. -/
def selectedFields (config : Config) (object : ObjectType ν) : List (Field ν) :=
  match config.selectionFor (Name.text object.name) with
  | none | some [] => object.fields
  | some names => object.fields.filter fun field => field.name ∈ names.map Name.ofText

/-- The object types that can be reached from one, itself included, through selected fields. -/
inductive SelectReaches (config : Config) (schema : Schema ν) (root : ObjectType ν) :
    ObjectType ν → Prop where
  | root : SelectReaches config schema root root
  | step {object field next} (reached : SelectReaches config schema root object)
      (member : field ∈ config.selectedFields object)
      (returned : schema.returned? field = some next) : SelectReaches config schema root next

/-- The selected fields of an object type, so many levels deep: a field that returns an object type
has the selected fields of that type below it. -/
def trees (config : Config) (schema : Schema ν) : Nat → ObjectType ν → List Document.Tree
  | 0, _ => []
  | depth + 1, object => (config.selectedFields object).map fun field =>
    match schema.returned? field with
    | none => .leaf (Name.shown field.name)
    | some next => .nested (Name.shown field.name) (config.trees schema depth next)

/-- A field in a fragment: by itself if it refers to a leaf, else around the spread of the fragment
for the type that it refers to. -/
def item (field : Field ν) : Document.Item :=
  let type := field.type.innermost
  if type.kind.isLeaf then .leaf (Name.shown field.name)
  else .nested (Name.shown field.name) [.spread (Fragment.key (Name.shown type.name))]

/-- The definition of the fragment for an object type. -/
def definition (config : Config) (object : ObjectType ν) : Document.Definition where
  key := Fragment.key (Name.shown object.name)
  type := Name.shown object.name
  items := (config.selectedFields object).map item

end Config

def Document.Definition.entry (d : Document.Definition) : String × String :=
  (d.key, Text.unlines d.lines)

variable {config : Config} {schema : Schema ν} {object : ObjectType ν} {field : Field ν}

theorem Config.mem_of_mem_selectedFields (member : field ∈ config.selectedFields object) :
    field ∈ object.fields := by
  rw [selectedFields] at member
  split at member
  · exact member
  · exact member
  · exact List.mem_of_mem_filter member

theorem Config.selectedFields_eq (none : config.selections = []) :
    config.selectedFields object = object.fields := by
  simp [selectedFields, selectionFor, none]

theorem Selection.ofNames_ok {names : List String} {selection : Selection ν}
    (made : Selection.ofNames object names = .ok selection) :
    selection = if names = [] then .all object
      else ⟨object, object.fieldNames.filter (· ∈ names.map Name.ofText)⟩ := by
  simp only [Selection.ofNames] at made
  split at made
  · cases made
  split at made
  · cases made
  split at made
  all_goals cases made; simp_all

theorem Config.selection_ok {selection : Selection ν}
    (made : config.selection object = .ok selection) :
    selection = ⟨object, (config.selectedFields object).map (·.name)⟩ := by
  rw [Selection.ofNames_ok (mapError_ok made), Config.selectedFields]
  obtain _ | _ | ⟨name, names⟩ := config.selectionFor (Name.text object.name)
  · simp [Selection.all, ObjectType.fieldNames]
  · simp [Selection.all, ObjectType.fieldNames]
  · simp [ObjectType.fieldNames, List.filter_map, Function.comp_def]

/-! ### Fragments -/

omit [DecidableEq ν] in
theorem renderField_ok (written : Name.Written field.name) {rendered : ν}
    (done : Selection.renderField field = .ok rendered) :
    rendered = Name.ofText (Text.unlines (Document.itemLines [Config.item field])) := by
  simp only [Selection.renderField] at done
  split at done
  · next leaf =>
    rw [← Except.ok.inj done]
    simp [Config.item, leaf, Document.itemLines, Text.unlines, Text.join, written]
  · next composite =>
    split at done
    · cases done
    · rw [← Except.ok.inj done]
      simp [Config.item, composite, Document.itemLines, Text.unlines, Text.join]

theorem renderFields_ok {fields : List (Field ν)}
    (written : ∀ field ∈ object.fields, Name.Written field.name)
    (distinct : object.fieldNames.Nodup) (inside : ∀ field ∈ fields, field ∈ object.fields)
    {rendered : List ν}
    (done : Selection.renderFields ⟨object, fields.map (·.name)⟩ = .ok rendered) :
    rendered = fields.map fun field =>
      Name.ofText (Text.unlines (Document.itemLines [Config.item field])) := by
  rw [Selection.renderFields, List.mapM_map] at done
  refine mapM_ok ?_ done
  intro field member lines render
  have declared := inside field member
  simp only [Function.comp_apply, ObjectType.field?_of_mem written distinct declared] at render
  exact renderField_ok (written field declared) render

theorem itemLines_eq_flatMap (items : List Document.Item) :
    Document.itemLines items = items.flatMap fun item => Document.itemLines [item] := by
  induction items with
  | nil => simp [Document.itemLines]
  | cons item rest ih =>
    rw [List.flatMap_cons, ← ih]
    cases item <;> simp [Document.itemLines]

omit [DecidableEq ν] in
theorem fieldLines_ok {lines : List String} (plain : ∀ line ∈ lines, '\n' ∉ line.toList)
    (nonempty : lines ≠ []) {shown : List String}
    (done : Selection.fieldLines (Name.ofText (Text.unlines lines) : ν) = .ok shown) :
    shown = lines.map (Selection.indent ++ ·) := by
  simp only [Selection.fieldLines, Name.text?_ofText, Text.lines_unlines plain nonempty] at done
  exact (Except.ok.inj done).symm

omit [DecidableEq ν] in
theorem flatten_fieldLines {fields : List (Field ν)}
    (named : Document.Named (fields.map Config.item)) {shown : List (List String)}
    (done : (fields.map fun field => (Name.ofText
      (Text.unlines (Document.itemLines [Config.item field])) : ν)).mapM Selection.fieldLines
        = .ok shown) :
    shown.flatten
      = (Document.itemLines (fields.map Config.item)).map (Selection.indent ++ ·) := by
  have lines : shown = fields.map fun field =>
      (Document.itemLines [Config.item field]).map (Selection.indent ++ ·) := by
    rw [List.mapM_map] at done
    refine mapM_ok ?_ done
    intro field member shown render
    refine fieldLines_ok ?_ ?_ render
    · intro line held
      apply Document.break_not_mem_itemLines named
      rw [itemLines_eq_flatMap]
      exact List.mem_flatMap.mpr ⟨_, List.mem_map_of_mem member, held⟩
    · rw [Config.item]
      split <;> simp [Document.itemLines]
  rw [itemLines_eq_flatMap, lines, List.flatMap_map, List.map_flatMap, List.flatMap_def]

def ObjectType.definition (object : ObjectType ν) (fields : List (Field ν)) :
    Document.Definition where
  key := Fragment.key (Name.shown object.name)
  type := Name.shown object.name
  items := fields.map Config.item

theorem Selection.fragment_ok {fields : List (Field ν)}
    (written : ∀ field ∈ object.fields, Name.Written field.name)
    (distinct : object.fieldNames.Nodup) (inside : ∀ field ∈ fields, field ∈ object.fields)
    (named : Document.Named (fields.map Config.item)) {body : String}
    (done : Selection.fragment ⟨object, fields.map (·.name)⟩ = .ok body) :
    body = Text.unlines (object.definition fields).lines := by
  obtain ⟨rendered, render, done⟩ := bind_ok done
  obtain rfl := renderFields_ok written distinct inside render
  obtain ⟨lines, shown, done⟩ := bind_ok done
  obtain rfl := Except.ok.inj done
  rw [Document.Definition.lines, ObjectType.definition, ← flatten_fieldLines named shown]
  rfl

theorem fragment_ok (declared : object.Proper schema) (named : (config.definition object).Named)
    {selection : Selection ν} (made : config.selection object = .ok selection) {body : String}
    (done : selection.fragment = .ok body) :
    (selection.key, body) = (config.definition object).entry := by
  obtain rfl := Config.selection_ok made
  rw [Selection.fragment_ok declared.fields declared.distinct
    (fun _ => Config.mem_of_mem_selectedFields) named.items done]
  rfl

/-! ### Well-named definitions -/

theorem isName_key {type : String} (named : Sdl.isName type.toList = true) :
    Sdl.isName (Fragment.key type).toList = true := by
  obtain ⟨c, rest, chars, starts, continues⟩ := Document.exists_of_isName named
  have suffix : "Fragment".toList.all Sdl.continuesName = true := by decide
  rw [Fragment.key, String.toList_append, chars, List.cons_append, Sdl.isName, List.all_append,
    starts, suffix, List.all_eq_true.mpr continues]
  rfl

theorem key_injective : Function.Injective Fragment.key :=
  fun _ _ same => (String.append_left_inj _).mp same

theorem key_ne_on (type : String) : Fragment.key type ≠ "on" := by
  intro same
  have short := congrArg String.length same
  rw [Fragment.key, String.length_append, show "Fragment".length = 8 from rfl,
    show "on".length = 2 from rfl] at short
  omega

omit [DecidableEq ν] in
theorem named_items {fields : List (Field ν)}
    (own : ∀ field ∈ fields, Sdl.isName (Name.shown field.name).toList = true)
    (types : ∀ field ∈ fields, field.type.innermost.kind.isLeaf = false →
      Sdl.isName (Name.shown field.type.innermost.name).toList = true) :
    Document.Named (fields.map Config.item) := by
  induction fields with
  | nil => exact .nil
  | cons field rest ih =>
    obtain ⟨name, names⟩ := List.forall_mem_cons.mp own
    obtain ⟨type, types⟩ := List.forall_mem_cons.mp types
    have others := ih names types
    rw [List.map_cons, Config.item]
    split
    · exact .leaf name others
    · next composite =>
      have key := isName_key (type (Bool.eq_false_iff.mpr composite))
      exact .nested name (.spread key (key_ne_on _) .nil) others

omit [DecidableEq ν] in
theorem mem_spreads_items {fields : List (Field ν)} {key : String} :
    key ∈ Document.spreads (fields.map Config.item) ↔
      ∃ field ∈ fields, field.type.innermost.kind.isLeaf = false ∧
        Fragment.key (Name.shown field.type.innermost.name) = key := by
  induction fields with
  | nil => simp [Document.spreads]
  | cons field rest ih =>
    rw [List.map_cons, Config.item, List.exists_mem_cons_iff, ← ih]
    cases field.type.innermost.kind.isLeaf with
    | true => simp [Document.spreads]
    | false => simp [Document.spreads, @eq_comm _ key]

/-- A field that does not offend stands in a fragment as what it returns has it. -/
theorem item_eq (proper : schema.Proper) (declared : object.Proper schema)
    (member : field ∈ object.fields) (fine : schema.offends field = false) :
    Config.item field = match schema.returned? field with
      | none => .leaf (Name.shown field.name)
      | some next => .nested (Name.shown field.name)
          [.spread (Fragment.key (Name.shown next.name))] := by
  have leaf := declared.isLeaf_eq member fine
  rw [Config.item]
  cases returned : schema.returned? field with
  | none =>
    rw [returned] at leaf
    simp [leaf]
  | some next =>
    rw [returned] at leaf
    simp [leaf, proper.name_of_returned? returned]

/-- A field that does not offend refers to a composite type where it returns one, of that name. -/
theorem composite_iff (proper : schema.Proper) (declared : object.Proper schema)
    (member : field ∈ object.fields) (fine : schema.offends field = false) {P : ν → Prop} :
    field.type.innermost.kind.isLeaf = false ∧ P field.type.innermost.name ↔
      ∃ next, schema.returned? field = some next ∧ P next.name := by
  rw [declared.isLeaf_eq member fine]
  cases returned : schema.returned? field with
  | none => simp
  | some next => simp [proper.name_of_returned? returned]

theorem definition_named (config : Config) (proper : schema.Proper)
    (declared : object.Proper schema)
    (fine : ∀ field ∈ object.fields, schema.offends field = false) :
    (config.definition object).Named where
  key := isName_key declared.named.isName_shown
  type := declared.named.isName_shown
  items := by
    refine named_items (fun field selected => ?_) fun field selected composite => ?_
    · exact (declared.fields field (Config.mem_of_mem_selectedFields selected)).isName_shown
    · have member := Config.mem_of_mem_selectedFields selected
      obtain ⟨next, returned, same⟩ := (composite_iff proper declared member (fine field member)
        (P := (field.type.innermost.name = ·))).mp ⟨composite, rfl⟩
      exact same ▸ (proper.object returned).named.isName_shown

theorem mem_spreads_definition (proper : schema.Proper) (declared : object.Proper schema)
    (fine : ∀ field ∈ object.fields, schema.offends field = false) {key : String} :
    key ∈ Document.spreads (config.definition object).items ↔
      ∃ field ∈ config.selectedFields object, ∃ next, schema.returned? field = some next ∧
        Fragment.key (Name.shown next.name) = key := by
  rw [Config.definition, mem_spreads_items]
  refine exists_congr fun field => and_congr_right fun selected => ?_
  have member := Config.mem_of_mem_selectedFields selected
  exact composite_iff proper declared member (fine field member)
    (P := fun name => Fragment.key (Name.shown name) = key)

end GraphqlRequests
