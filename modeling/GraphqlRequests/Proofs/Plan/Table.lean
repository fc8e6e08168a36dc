import GraphqlRequests.Proofs.Fragment.Closure
import GraphqlRequests.Proofs.Fragment.Spread
import GraphqlRequests.Proofs.Reach.Walk
import GraphqlRequests.Proofs.Selection.Fragment
import GraphqlRequests.Proofs.Text.Split

/-!
# The fragments of a plan

Over a proper schema the table of a plan holds the fragment of each object type that the field
reaches. Its closure holds the fragments of those that are reached through selected fields.
-/

namespace GraphqlRequests

variable {ν : Type} [DecidableEq ν] [Name ν]
variable {config : Config} {schema : Schema ν} {operation : Operation ν} {field : Field ν}
variable {plan : Plan ν} {root : ObjectType ν}

/-- What the parts of a plan come from, where the field returns an object type. -/
structure Config.Planned (config : Config) (schema : Schema ν) (operation : Operation ν)
    (field : Field ν) (root : ObjectType ν) (plan : Plan ν) : Prop where
  operation_eq : plan.operation = operation
  field_eq : plan.field = field
  reachable : schema.reachable field = .ok plan.reachable
  table : config.fragmentTable schema plan.reachable = .ok plan.table
  rootKeys : plan.rootKeys = [Fragment.key (Name.shown root.name)]
  fragments : Fragment.closure plan.table plan.rootKeys = .ok plan.fragments

theorem Config.planField_ok (returned : schema.returned? field = some root) :
    config.planField schema operation field = .ok plan ↔
      config.Planned schema operation field root plan := by
  constructor
  · intro done
    obtain ⟨type, resolved, done⟩ := bind_ok done
    have object := Schema.returned?_of_returnType (mapError_ok resolved)
    rw [returned] at object
    simp only [← object] at done
    obtain ⟨reachable, walked, done⟩ := bind_ok done
    obtain ⟨table, made, done⟩ := bind_ok done
    obtain ⟨fragments, closed, done⟩ := bind_ok done
    obtain rfl := Except.ok.inj done
    exact ⟨rfl, rfl, mapError_ok walked, made, rfl, mapError_ok closed⟩
  · rintro ⟨rfl, rfl, walked, made, roots, closed⟩
    obtain ⟨order, after, visits⟩ := Schema.Visits.total schema [] [plan.field]
    have fine := (Schema.reachable_ok visits walked).1 plan.field (.inl rfl)
    obtain ⟨type, resolved⟩ := Schema.offends_eq_false.mp fine
    have object := Schema.returned?_of_returnType resolved
    rw [returned] at object
    rw [roots] at closed
    simp only [planField, resolved, walked, ← object, Except.mapError, bind, Except.bind, made,
      closed]
    rw [← roots]
    rfl

/-! ### The table -/

theorem Fragment.Table.insert_of_not_mem {table : Table} {key : String} (fresh : key ∉ table.keys)
    (body : String) : table.insert key body = table ++ [(key, body)] := by
  induction table with
  | nil => rfl
  | cons e rest ih =>
    obtain ⟨k, b⟩ := e
    simp only [keys, List.map_cons, List.mem_cons, not_or] at fresh
    rw [insert, if_neg (Ne.symm fresh.1), ih fresh.2, List.cons_append]

theorem Fragment.Table.ofList_eq {entries : Table} (distinct : entries.keys.Nodup) :
    ofList entries = entries := by
  have folded : ∀ table : Table, (table ++ entries).keys.Nodup →
      entries.foldl (fun table e => table.insert e.1 e.2) table = table ++ entries := by
    clear distinct
    induction entries with
    | nil => simp
    | cons e rest ih =>
      intro table distinct
      have fresh : e.1 ∉ table.keys := by
        rw [keys_append, List.nodup_append] at distinct
        exact fun old => distinct.2.2 e.1 old e.1 List.mem_cons_self rfl
      rw [List.foldl_cons, insert_of_not_mem fresh, ih]
      · simp
      · simpa using distinct
  exact folded [] distinct

theorem Config.parts_of_fragment {type : String} {object : ObjectType ν} {e : String × String}
    (found : schema.object? (Name.ofText type) = some object)
    (done : config.fragment schema type = .ok e) :
    ∃ selection, config.selection object = .ok selection ∧ selection.fragment = .ok e.2 ∧
      e.1 = selection.key := by
  simp only [fragment, found] at done
  obtain ⟨selection, selected, done⟩ := bind_ok done
  obtain ⟨body, rendered, done⟩ := bind_ok done
  obtain rfl := Except.ok.inj done
  exact ⟨selection, selected, mapError_ok rendered, rfl⟩

theorem Config.key_of_fragment {type : String} {e : String × String}
    (done : config.fragment schema type = .ok e) : e.1 = Fragment.key type := by
  cases found : schema.object? (Name.ofText type) with
  | none =>
    simp only [fragment, found] at done
    cases done
  | some object =>
    obtain ⟨selection, selected, -, key⟩ := parts_of_fragment found done
    have named : object.name = Name.ofText type := by
      simpa using Schema.key_of_object? found
    rw [key, selection_ok selected, Selection.key, named, Name.shown_ofText]

theorem Config.fragmentTable_ok {map : FieldMap ν} {table : Fragment.Table}
    (made : config.fragmentTable schema map = .ok table) :
    (sortedTypes map).mapM (config.fragment schema) = .ok table ∧
      table.keys = (sortedTypes map).map Fragment.key ∧ table.keys.Nodup := by
  obtain ⟨entries, steps, folded⟩ := bind_ok made
  have keys : Fragment.Table.keys entries = (sortedTypes map).map Fragment.key :=
    map_eq_of_mapM (fun _ _ _ => key_of_fragment) steps
  have distinct : (Fragment.Table.keys entries).Nodup := by
    rw [keys]
    exact (Text.nodup_sorted _).map key_injective
  obtain rfl : entries = table := by
    rw [← Except.ok.inj folded, Fragment.Table.ofList_eq distinct]
  exact ⟨steps, keys, distinct⟩

/-! ### Reached object types -/

variable {object other : ObjectType ν}

namespace Schema.Reaches

theorem found (reached : schema.Reaches field object) :
    schema.object? object.name = some object := by
  obtain ⟨_, _, returned⟩ := reaches_iff.mp reached
  exact object?_name returned

theorem declared (proper : schema.Proper) (reached : schema.Reaches field object) :
    object.Proper schema :=
  proper.object reached.found

theorem eq_of_key (proper : schema.Proper) (reached : schema.Reaches field object)
    (also : schema.Reaches field other)
    (same : Fragment.key (Name.shown object.name) = Fragment.key (Name.shown other.name)) :
    object = other := by
  have shown := key_injective same
  have named := ((reached.declared proper).named.shown_inj (also.declared proper).named).mp shown
  exact object?_unique reached.found also.found named

theorem fine {map : FieldMap ν} (walked : schema.reachable field = .ok map)
    (reached : schema.Reaches field object) :
    ∀ inner ∈ object.fields, schema.offends inner = false := by
  intro inner member
  obtain ⟨order, after, visits⟩ := Visits.total schema [] [field]
  exact (reachable_ok visits walked).1 inner (.inr ⟨object, reached, member⟩)

end Schema.Reaches

theorem Config.SelectReaches.reaches (returned : schema.returned? field = some root)
    (reached : config.SelectReaches schema root object) : schema.Reaches field object := by
  induction reached with
  | root => exact .start returned
  | step _ member here ih => exact .step ih (Config.mem_of_mem_selectedFields member) here

theorem mem_sortedTypes_iff {map : FieldMap ν} (walked : schema.reachable field = .ok map)
    {type : String} : type ∈ Config.sortedTypes map ↔
      ∃ object, schema.Reaches field object ∧ Name.text object.name = type := by
  rw [Config.sortedTypes, Text.mem_sorted, List.mem_map]
  constructor
  · rintro ⟨e, member, rfl⟩
    have key : e.1 ∈ map.keys := List.mem_map_of_mem member
    obtain ⟨object, reached, named⟩ := (Schema.mem_keys_reachable walked).mp key
    exact ⟨object, reached, congrArg Name.text named⟩
  · rintro ⟨object, reached, rfl⟩
    have key := (Schema.mem_keys_reachable walked).mpr ⟨object, reached, rfl⟩
    obtain ⟨e, member, named⟩ := List.mem_map.mp key
    exact ⟨e, member, congrArg Name.text named⟩

theorem mem_sortedTypes (proper : schema.Proper) {map : FieldMap ν}
    (walked : schema.reachable field = .ok map) (type : String) :
    type ∈ Config.sortedTypes map ↔
      ∃ object, schema.Reaches field object ∧ Name.shown object.name = type := by
  rw [mem_sortedTypes_iff walked]
  refine exists_congr fun object => and_congr_right fun reached => ?_
  rw [(reached.declared proper).named.text_eq_shown]

theorem Config.Planned.exists_fragment (planned : config.Planned schema operation field root plan)
    (reached : schema.Reaches field object)
    (named : Name.ofText (Name.text object.name) = object.name) :
    ∃ selection body, config.selection object = .ok selection ∧ selection.fragment = .ok body := by
  obtain ⟨steps, -, -⟩ := Config.fragmentTable_ok planned.table
  have listed := (mem_sortedTypes_iff planned.reachable).mpr ⟨object, reached, rfl⟩
  obtain ⟨entry, made⟩ := exists_ok_of_mapM steps _ listed
  obtain ⟨selection, selected, rendered, -⟩ :=
    Config.parts_of_fragment (by rw [named, reached.found]) made
  exact ⟨selection, entry.2, selected, rendered⟩

theorem Config.Planned.expanding (planned : config.Planned schema operation field root plan)
    (known : Fragment.key (Name.shown root.name) ∈ plan.table.keys) :
    ∃ left, Fragment.Expanding plan.table plan.rootKeys plan.fragments [] left := by
  obtain ⟨-, -, distinct⟩ := Config.fragmentTable_ok planned.table
  have roots : ∀ key ∈ plan.rootKeys, key ∈ plan.table.keys := by
    rw [planned.rootKeys]
    exact List.forall_mem_singleton.mpr known
  obtain ⟨result, left, collected, expanding⟩ := Fragment.closure_ok distinct roots
  obtain rfl : result = plan.fragments := Except.ok.inj (collected.symm.trans planned.fragments)
  exact ⟨left, expanding⟩

theorem Config.Planned.definition_named (planned : config.Planned schema operation field root plan)
    (proper : schema.Proper) (reached : schema.Reaches field object) :
    (config.definition object).Named :=
  GraphqlRequests.definition_named config proper (reached.declared proper)
    (reached.fine planned.reachable)

theorem Config.Planned.fragment_eq (planned : config.Planned schema operation field root plan)
    (proper : schema.Proper) (reached : schema.Reaches field object) {e : String × String}
    (done : config.fragment schema (Name.shown object.name) = .ok e) :
    e = (config.definition object).entry := by
  have declared := reached.declared proper
  have found := reached.found
  rw [← declared.named.ofText_shown] at found
  obtain ⟨selection, selected, rendered, key⟩ := Config.parts_of_fragment found done
  rw [← fragment_ok declared (planned.definition_named proper reached) selected rendered, ← key]

/-- The table holds the fragment of each object type that the field reaches, once. -/
theorem Config.Planned.table_eq (planned : config.Planned schema operation field root plan)
    (proper : schema.Proper) : ∃ objects : List (ObjectType ν),
      plan.table = objects.map (fun object => (config.definition object).entry) ∧
      (∀ object, object ∈ objects ↔ schema.Reaches field object) ∧ plan.table.keys.Nodup := by
  have types := mem_sortedTypes proper planned.reachable
  obtain ⟨objects, names, reached⟩ := exists_map_eq fun type => (types type).mp
  obtain ⟨made, -, distinct⟩ := Config.fragmentTable_ok planned.table
  have values : plan.table = objects.map fun object => (config.definition object).entry := by
    rw [← names, List.mapM_map] at made
    refine mapM_ok ?_ made
    intro object member e done
    exact planned.fragment_eq proper (reached object member) done
  refine ⟨objects, values, ?_, distinct⟩
  intro object
  refine ⟨reached object, fun here => ?_⟩
  have listed : Name.shown object.name ∈ Config.sortedTypes plan.reachable :=
    (types _).mpr ⟨object, here, rfl⟩
  rw [← names] at listed
  obtain ⟨other, member, same⟩ := List.mem_map.mp listed
  rwa [here.eq_of_key proper (reached other member) (congrArg Fragment.key same.symm)]

/-! ### The closure of the table -/

namespace Config

def SelectedKeys (config : Config) (schema : Schema ν) (root : ObjectType ν) : Set String :=
  {key | ∃ object, config.SelectReaches schema root object ∧
    Fragment.key (Name.shown object.name) = key}

namespace Planned

variable (planned : config.Planned schema operation field root plan) (proper : schema.Proper)
include planned proper

theorem spreads_iff (reached : schema.Reaches field object) {key : String}
    (known : key ∈ plan.table.keys) :
    Fragment.spreads (config.definition object).entry.2 key = true ↔
      ∃ inner ∈ config.selectedFields object, ∃ next, schema.returned? inner = some next ∧
        Fragment.key (Name.shown next.name) = key := by
  obtain ⟨objects, table, all, -⟩ := planned.table_eq proper
  have named : Sdl.isName key.toList = true := by
    obtain ⟨body, member⟩ := Fragment.Table.mem_keys.mp known
    rw [table] at member
    obtain ⟨other, listed, entry⟩ := List.mem_map.mp member
    rw [← (Prod.mk.inj entry).1]
    exact (planned.definition_named proper ((all other).mp listed)).key
  have unbroken : '\n' ∉ key.toList := Document.not_mem_of_isName named rfl
  rw [Document.Definition.entry, Fragment.spreads_unlines (planned.definition_named proper reached)
    unbroken, decide_eq_true_eq]
  exact mem_spreads_definition proper (reached.declared proper) (reached.fine planned.reachable)

theorem mem_table (reached : schema.Reaches field object) :
    (config.definition object).entry ∈ plan.table := by
  obtain ⟨objects, table, all, -⟩ := planned.table_eq proper
  rw [table]
  exact List.mem_map_of_mem ((all object).mpr reached)

variable (returned : schema.returned? field = some root)
include returned

/-- The keys reached through selected fields are the least set that is closed under spreads. -/
theorem isLeast_selectedKeys :
    IsLeast {keys | Fragment.Closed plan.table plan.rootKeys keys}
      (config.SelectedKeys schema root) := by
  obtain ⟨objects, table, all, -⟩ := planned.table_eq proper
  refine ⟨⟨?_, ?_⟩, ?_⟩
  · intro key member
    rw [planned.rootKeys, List.mem_singleton] at member
    exact ⟨root, .root, member.symm⟩
  · -- The entry's key tells its object type, and what its body spreads this type selects.
    rintro e member ⟨object, reached, same⟩ key known spread
    rw [table] at member
    obtain ⟨other, listed, rfl⟩ := List.mem_map.mp member
    have here := reached.reaches returned
    obtain rfl := here.eq_of_key proper ((all other).mp listed) same
    obtain ⟨inner, selected, next, below, named⟩ :=
      (planned.spreads_iff proper here known).mp spread
    exact ⟨next, .step reached selected below, named⟩
  · -- By induction on how the object type is reached: each step is a spread in a known body.
    rintro keys ⟨roots, step⟩ key ⟨object, reached, rfl⟩
    induction reached with
    | root => exact roots _ (by rw [planned.rootKeys]; exact List.mem_singleton_self _)
    | @step object inner next before member below ih =>
      have here := before.reaches returned
      have known := Fragment.Table.mem_keys_of_mem
        (planned.mem_table proper (here.step (mem_of_mem_selectedFields member) below))
      refine step _ (planned.mem_table proper here) ih _ known ?_
      exact (planned.spreads_iff proper here known).mpr ⟨inner, member, next, below, rfl⟩

theorem expanded : ∃ left, Fragment.Expanding plan.table plan.rootKeys plan.fragments [] left :=
  planned.expanding (Fragment.Table.mem_keys_of_mem (planned.mem_table proper (.start returned)))

theorem mem_keys_fragments {key : String} :
    key ∈ plan.fragments.keys ↔ ∃ object, config.SelectReaches schema root object ∧
      Fragment.key (Name.shown object.name) = key := by
  obtain ⟨_, _, _, distinct⟩ := planned.table_eq proper
  obtain ⟨left, expanding⟩ := planned.expanded proper returned
  have keys := (expanding.isLeast distinct).unique (planned.isLeast_selectedKeys proper returned)
  exact Set.ext_iff.mp keys key

theorem entry_of_mem_fragments {e : String × String} (member : e ∈ plan.fragments) :
    ∃ object, config.SelectReaches schema root object ∧ (config.definition object).entry = e := by
  obtain ⟨objects, table, all, -⟩ := planned.table_eq proper
  obtain ⟨left, expanding⟩ := planned.expanded proper returned
  have inside := expanding.parted.subset e (by simpa using member)
  rw [table] at inside
  obtain ⟨object, listed, rfl⟩ := List.mem_map.mp inside
  obtain ⟨other, reached, same⟩ := (planned.mem_keys_fragments proper returned).mp
    (Fragment.Table.mem_keys_of_mem member)
  obtain rfl := (reached.reaches returned).eq_of_key proper ((all object).mp listed) same
  exact ⟨other, reached, rfl⟩

/-- The fragments of a plan are those of the object types that are reached through selected fields,
each once, that of the returned type first. -/
theorem fragments_eq : ∃ objects : List (ObjectType ν),
      plan.fragments = objects.map (fun object => (config.definition object).entry) ∧
      (∀ object, object ∈ objects ↔ config.SelectReaches schema root object) ∧
      plan.fragments.keys.Nodup ∧
      plan.fragments.keys.head? = some (Fragment.key (Name.shown root.name)) := by
  obtain ⟨left, expanding⟩ := planned.expanded proper returned
  obtain ⟨objects, entries, reached⟩ := exists_map_eq fun _ =>
    planned.entry_of_mem_fragments proper returned
  have distinct := expanding.parted.distinct
  rw [List.append_nil] at distinct
  refine ⟨objects, entries.symm, fun object => ⟨reached object, fun here => ?_⟩, distinct, ?_⟩
  · have key := (planned.mem_keys_fragments proper returned).mpr ⟨object, here, rfl⟩
    rw [← entries, Fragment.Table.keys, List.map_map] at key
    obtain ⟨other, member, same⟩ := List.mem_map.mp key
    have there := (reached other member).reaches returned
    rwa [(here.reaches returned).eq_of_key proper there same.symm]
  · obtain ⟨found, order, -⟩ := expanding.breadthFirst
    rw [order, planned.rootKeys]
    rfl

end Planned

end Config

end GraphqlRequests
