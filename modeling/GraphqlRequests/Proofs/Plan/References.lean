import GraphqlRequests.Load
import GraphqlRequests.Proofs.Plan.Cycles

/-!
# References and look-ups

A field is walked through by looking up the type that it returns, and rendered by the kind that its
reference gives to this type. Nothing compares the two. Where they differ, a leaf may be rendered
around a spread that no fragment is made for, and an object type by itself.
-/

namespace GraphqlRequests

variable {ν : Type} [DecidableEq ν] [Name ν]
variable {config : Config} {schema : Schema ν} {operation : Operation ν} {field : Field ν}
variable {plan : Plan ν} {root object : ObjectType ν} {objects : List (ObjectType ν)}

namespace Schema

/-- What should stand in a fragment for a field: the spread of the fragment for the object type that
is looked up, and nothing but the name for a scalar or an enum. -/
inductive Suits (schema : Schema ν) (field : Field ν) : Document.Item → Prop where
  | object {type} (resolved : schema.returnType field = .ok type) (object : type.kind = .object) :
      Suits schema field (.nested (Name.shown field.name)
        [.spread (Fragment.key (Name.shown field.type.innermost.name))])
  | leaf {type} (resolved : schema.returnType field = .ok type) (leaf : type.kind.isLeaf = true) :
      Suits schema field (.leaf (Name.shown field.name))

/-- The reference of a field gives the type that is looked up as what it is: an object type, or a
leaf. -/
def Vouches (schema : Schema ν) (field : Field ν) : Prop :=
  ∃ type, schema.returnType field = .ok type ∧
    (field.type.innermost.kind = .object ∧ type.kind = .object ∨
      field.type.innermost.kind.isLeaf = true ∧ type.kind.isLeaf = true)

theorem suits_iff_vouches (concrete : field.type.innermost.kind.isLeaf = true ∨
    field.type.innermost.kind = .object) :
    schema.Suits field (Config.item field) ↔ schema.Vouches field := by
  unfold Config.item Vouches
  rcases concrete with leaf | object
  · simp only [leaf, if_true, true_and]
    constructor
    · intro suits
      cases suits with
      | leaf resolved kind => exact ⟨_, resolved, .inr kind⟩
    · rintro ⟨type, resolved, ⟨object, -⟩ | kind⟩
      · rw [object] at leaf
        cases leaf
      · exact .leaf resolved kind
  · have composite : TypeKind.object.isLeaf = false := rfl
    simp only [object, composite, Bool.false_eq_true, if_false, true_and, false_and, or_false]
    constructor
    · intro suits
      cases suits with
      | object resolved kind => exact ⟨_, resolved, kind⟩
    · rintro ⟨type, resolved, kind⟩
      exact .object resolved kind

end Schema

namespace Config

/-- How a plan is written: its table for all object types that the field reaches, its fragments for
some of these. In the document they stand as their definitions, and each selected field has been
looked up, and refers to an object type or a leaf. -/
structure Writes (config : Config) (schema : Schema ν) (field : Field ν) (root : ObjectType ν)
    (plan : Plan ν) (tabled objects : List (ObjectType ν)) : Prop where
  reached : ∀ object, object ∈ tabled ↔ schema.Reaches field object
  table : plan.table = tabled.map fun object => (config.definition object).entry
  subset : objects ⊆ tabled
  starts : root ∈ objects
  fragments : plan.fragments = objects.map fun object => (config.definition object).entry
  reads : plan.Reads (config.body root objects)
  resolved : ∀ object ∈ tabled, ∀ inner ∈ config.selectedFields object,
    ∃ type, schema.returnType inner = .ok type
  concrete : ∀ object ∈ tabled, ∀ inner ∈ config.selectedFields object,
    inner.type.innermost.kind.isLeaf = true ∨ inner.type.innermost.kind = .object

theorem fragment_eq_definition (legible : object.Legible) {selection : Selection ν}
    (made : config.selection object = .ok selection) {body : String}
    (done : selection.fragment = .ok body) :
    (Fragment.key (Name.shown object.name), body) = (config.definition object).entry ∧
      ∀ inner ∈ config.selectedFields object, inner.type.innermost.kind.isLeaf = true ∨
        inner.type.innermost.kind = .object := by
  obtain rfl := selection_ok made
  have inside : ∀ inner ∈ config.selectedFields object, inner ∈ object.fields :=
    fun _ => mem_of_mem_selectedFields
  have text := Selection.fragment_ok legible.fields legible.distinct inside
    (legible.named_items inside) done
  refine ⟨congrArg (Prod.mk _) text, fun inner member => ?_⟩
  obtain ⟨rendered, render, -⟩ := bind_ok done
  obtain ⟨entry, shown⟩ := exists_ok_of_mapM render inner.name (List.mem_map_of_mem member)
  have here := ObjectType.field?_of_mem legible.fields legible.distinct (inside inner member)
  simp only [here] at shown
  have output := legible.output inner (inside inner member)
  by_cases abstract : inner.type.innermost.kind.isAbstract = true
  · cases shown.symm.trans (renderField_error.mpr ⟨abstract, rfl⟩)
  · cases kind : inner.type.innermost.kind <;>
      simp_all [TypeKind.isLeaf, TypeKind.isAbstract, TypeKind.isOutput]

section Planned

variable (planned : config.Planned schema operation field root plan)
variable (legible : ∀ object, schema.Reaches field object → object.Legible)
include planned legible

theorem Planned.exists_entries {entries : Fragment.Table} (inside : entries ⊆ plan.table) :
    ∃ objects : List (ObjectType ν),
      objects.map (fun object => (config.definition object).entry) = entries ∧
      ∀ object ∈ objects, schema.Reaches field object ∧
        ∀ inner ∈ config.selectedFields object, inner.type.innermost.kind.isLeaf = true ∨
          inner.type.innermost.kind = .object := by
  refine exists_map_eq fun e member => ?_
  obtain ⟨object, selection, reached, made, rendered, key⟩ :=
    planned.exists_selection_of_mem_table legible (inside member)
  obtain ⟨same, concrete⟩ := fragment_eq_definition (legible object reached) made rendered
  exact ⟨object, ⟨reached, concrete⟩, by rw [← same, ← key]⟩

omit planned in
theorem mem_of_mem_keys {entries : Fragment.Table}
    (written : objects.map (fun object => (config.definition object).entry) = entries)
    (reached : ∀ object ∈ objects, schema.Reaches field object)
    (here : schema.Reaches field object)
    (known : Fragment.key (Name.shown object.name) ∈ entries.keys) : object ∈ objects := by
  rw [← written, Fragment.Table.keys, List.map_map] at known
  obtain ⟨other, listed, same⟩ := List.mem_map.mp known
  have there := reached other listed
  have named := ((legible other there).named.shown_inj (legible object here).named).mp
    (key_injective same)
  rwa [← Schema.object?_unique there.found here.found named]

theorem Planned.exists_writes (returned : schema.returned? field = some root) :
    ∃ tabled objects, config.Writes schema field root plan tabled objects := by
  obtain ⟨inside, -, roots, -⟩ := planned.fragments_closed legible returned
  obtain ⟨tabled, table, every⟩ := planned.exists_entries legible (List.Subset.refl plan.table)
  obtain ⟨objects, fragments, some⟩ := planned.exists_entries legible inside
  -- Keys tell object types apart, so the table has an object type where it has its key.
  have all : ∀ object, object ∈ tabled ↔ schema.Reaches field object := by
    intro object
    constructor
    · intro listed
      exact (every object listed).1
    · intro here
      have known := planned.mem_keys_table legible here
      exact mem_of_mem_keys legible table (fun other listed => (every other listed).1) here known
  refine ⟨tabled, objects, all, table.symm, fun object listed => (all object).mpr
    (some object listed).1, ?starts, fragments.symm, ?reads, ?resolved, fun object listed =>
    (every object listed).2⟩
  case starts =>
    refine mem_of_mem_keys legible fragments (fun object listed => (some object listed).1)
      (.start returned) (roots _ ?_)
    exact planned.rootKeys ▸ List.mem_singleton_self _
  case reads =>
    refine planned.reads_body fragments.symm ⟨?_, fun d member => ?_⟩
    · have named := (legible root (.start returned)).named.isName_shown
      exact .spread (isName_key named) (key_ne_on _) .nil
    · obtain ⟨object, listed, rfl⟩ := List.mem_map.mp member
      exact (legible object (some object listed).1).definition_named
        fun _ => mem_of_mem_selectedFields
  case resolved =>
    intro object listed inner member
    exact Schema.offends_eq_false.mp ((every object listed).1.fine planned.reachable inner
      (mem_of_mem_selectedFields member))

end Planned

namespace Writes

variable {tabled : List (ObjectType ν)}
variable (writes : config.Writes schema field root plan tabled objects)
variable (legible : ∀ object, schema.Reaches field object → object.Legible)
include writes

theorem mem_spreads_body {key : String} : key ∈ (config.body root objects).spreads ↔
    key = Fragment.key (Name.shown root.name) ∨
    ∃ object ∈ objects, ∃ inner ∈ config.selectedFields object,
      inner.type.innermost.kind = .object ∧
        Fragment.key (Name.shown inner.type.innermost.name) = key := by
  simp only [Document.Body.spreads, body, List.mem_append, Document.spreads,
    List.mem_singleton, List.flatMap_map, List.mem_flatMap, definition, mem_spreads_items]
  refine or_congr_right (exists_congr fun object => and_congr_right fun listed => ?_)
  refine exists_congr fun inner => and_congr_right fun member => and_congr_left fun _ => ?_
  rcases writes.concrete object (writes.subset listed) inner member with leaf | object
  · constructor
    · intro composite
      cases leaf.symm.trans composite
    · intro object
      rw [object] at leaf
      cases leaf
  · exact iff_of_true (by rw [object]; rfl) object

include legible

theorem mem_keys_iff (planned : config.Planned schema operation field root plan)
    (returned : schema.returned? field = some root) (listed : object ∈ objects)
    {inner : Field ν} (member : inner ∈ config.selectedFields object)
    (refers : inner.type.innermost.kind = .object) :
    Fragment.key (Name.shown inner.type.innermost.name) ∈ plan.fragments.keys ↔
      (schema.returned? inner).isSome := by
  have own := mem_of_mem_selectedFields member
  have reached := (writes.reached object).mp (writes.subset listed)
  have named := (legible object reached).references inner own
  constructor
  · intro known
    rw [writes.fragments, Fragment.Table.keys, List.map_map] at known
    obtain ⟨next, carried, same⟩ := List.mem_map.mp known
    have beyond := (writes.reached next).mp (writes.subset carried)
    have name := ((legible next beyond).named.shown_inj named).mp (key_injective same)
    rw [Schema.returned?, ← name, beyond.found]
    rfl
  · intro some
    obtain ⟨next, resolves⟩ := Option.isSome_iff_exists.mp some
    have beyond : schema.Reaches field next := .step reached own resolves
    have name : next.name = inner.type.innermost.name :=
      (legible next beyond).named.eq_of_key (Schema.key_of_object? resolves)
    have known := planned.mem_keys_table legible beyond
    rw [name] at known
    obtain ⟨inside, -, -, closed⟩ := planned.fragments_closed legible returned
    -- The definition of the selecting type spreads the key, so that the closure holds it.
    have entry : (config.definition object).entry ∈ plan.fragments := by
      rw [writes.fragments]
      exact List.mem_map_of_mem listed
    have spread := (planned.spreads_body_iff legible returned reached.found
      (legible object reached).named named entry).mpr
      ⟨inner, member, by rw [← refers]⟩
    exact closed _ (inside entry) (Fragment.Table.mem_keys_of_mem entry) _ known spread

end Writes

end Config

/-- A planned field is rendered as the references of selected fields have it, in its table and in its
document. There each selected field stands as what it returns exactly where its reference vouches
for that, and every spread of the document has its fragment exactly where the object types that
selected fields refer to are object types of the schema. -/
theorem Config.planField_renders_references
    (legible : ∀ object, schema.Reaches field object → object.Legible)
    (planned : config.planField schema operation field = .ok plan) :
    (schema.returned? field = none → plan.rootKeys = [] ∧ plan.fragments = []) ∧
    ∀ root, schema.returned? field = some root →
      ∃ tabled objects, config.Writes schema field root plan tabled objects ∧
        (∀ object ∈ tabled, ∀ inner ∈ config.selectedFields object,
          schema.Suits inner (Config.item inner) ↔ schema.Vouches inner) ∧
        ((∀ key ∈ (config.body root objects).spreads, key ∈ plan.fragments.keys) ↔
          ∀ object ∈ objects, ∀ inner ∈ config.selectedFields object,
            inner.type.innermost.kind = .object → (schema.returned? inner).isSome) := by
  constructor
  · intro none
    rw [planField_leaf none planned]
    exact ⟨rfl, rfl⟩
  intro root returned
  have planned := (planField_ok returned).mp planned
  obtain ⟨tabled, objects, writes⟩ := planned.exists_writes legible returned
  refine ⟨tabled, objects, writes, fun object listed inner member =>
    Schema.suits_iff_vouches (writes.concrete object listed inner member), ?_, ?_⟩
  · intro carried object listed inner member refers
    refine (writes.mem_keys_iff legible planned returned listed member refers).mp (carried _ ?_)
    exact writes.mem_spreads_body.mpr (.inr ⟨object, listed, inner, member, refers, rfl⟩)
  · intro resolves key spread
    rcases writes.mem_spreads_body.mp spread with rfl | ⟨object, listed, inner, member, refers, rfl⟩
    · rw [writes.fragments]
      exact Fragment.Table.mem_keys_of_mem (List.mem_map_of_mem writes.starts)
    · exact (writes.mem_keys_iff legible planned returned listed member refers).mpr
        (resolves object listed inner member refers)

/-! ### A leaf that is referred to as an object type -/

namespace Parcels

/-- Parcels have a weight, which is a scalar; the reference to it says otherwise. -/
def introspection : Json :=
  let object (name : String) (fields : List Json) : Json :=
    .object [("kind", .string "OBJECT"), ("name", .string name), ("interfaces", .array []),
      ("fields", .array fields)]
  let field (name type : String) : Json :=
    .object [("name", .string name), ("args", .array []),
      ("type", .object [("kind", .string "OBJECT"), ("name", .string type)])]
  .object [
    ("queryType", .object [("name", .string "Query")]),
    ("types", .array [
      object "Query" [field "parcel" "Parcel"],
      object "Parcel" [field "weight" "Weight"],
      .object [("kind", .string "SCALAR"), ("name", .string "Weight")]])]

def parcelField : Field Json where
  name := .string "parcel"
  type := .named ⟨.object, .string "Parcel"⟩

def weightField : Field Json where
  name := .string "weight"
  type := .named ⟨.object, .string "Weight"⟩

def parcel : ObjectType Json where
  name := .string "Parcel"
  fields := [weightField]

def post : Schema Json where
  types := [
    { name := .string "Query", body := .object [parcelField] [] },
    { name := .string "Parcel", body := .object [weightField] [] },
    { name := .string "Weight", body := .scalar }]
  roots := ⟨.string "Query", none, none⟩

def query : Operation Json where
  kind := .query
  type := { name := .string "Query", fields := [parcelField] }

def parcelBody : String :=
  Text.unlines ["fragment ParcelFragment on Parcel \x7b", "  weight \x7b", "    ...WeightFragment",
    "  \x7d", "\x7d"]

def parcelPlan : Plan Json where
  operation := query
  field := parcelField
  reachable := [(.string "Parcel", parcelField)]
  table := [("ParcelFragment", parcelBody)]
  fragments := [("ParcelFragment", parcelBody)]
  rootKeys := ["ParcelFragment"]

theorem returned_parcelField : post.returned? parcelField = some parcel := rfl

theorem planned : Config.planField {} post query parcelField = .ok parcelPlan := by
  have walked : post.reachable parcelField = .ok parcelPlan.reachable := by cbv
  have tabled : Config.fragmentTable {} post parcelPlan.reachable = .ok parcelPlan.table := by
    decide +kernel
  have closed : Fragment.closure parcelPlan.table parcelPlan.rootKeys
      = .ok parcelPlan.fragments := by cbv
  exact (Config.planField_ok returned_parcelField).mpr ⟨rfl, rfl, walked, tabled, rfl, closed⟩

theorem legible_of_reaches (object : ObjectType Json) (reached : post.Reaches parcelField object) :
    object.Legible := by
  have written : ∀ text : String, Sdl.isName text.toList = true →
      Name.Written (Json.string text) := fun text named => ⟨text, rfl, named⟩
  obtain ⟨type, found, whole⟩ := Schema.object?_eq_some.mp reached.found
  have member := Schema.mem_of_type? found
  simp only [post, List.mem_cons, List.not_mem_nil, or_false] at member
  rcases member with rfl | rfl | rfl <;> cases whole
  all_goals
    refine ⟨written _ (by decide), ?_, by decide, ?_, by decide⟩
    all_goals
      intro field own
      rw [List.mem_singleton.mp own]
      exact written _ (by decide)

theorem not_vouches : ¬post.Vouches weightField := by
  have resolved : post.returnType weightField = .ok { name := .string "Weight", body := .scalar } :=
    rfl
  rintro ⟨type, also, objects | leaves⟩
  · obtain rfl := Except.ok.inj (resolved.symm.trans also)
    cases objects.2
  · cases leaves.1

end Parcels

open Parcels in
theorem Config.planField_renders_references_of_parcels :
    (∀ object, post.Reaches parcelField object → object.Legible) ∧
    Config.planField {} post query parcelField = .ok parcelPlan ∧
    ∃ tabled objects, Config.Writes {} post parcelField parcel parcelPlan tabled objects ∧
      ¬post.Suits weightField (Config.item weightField) ∧
      ∃ key ∈ (Config.body {} parcel objects).spreads, key ∉ parcelPlan.fragments.keys := by
  obtain ⟨-, writes⟩ := Config.planField_renders_references legible_of_reaches planned
  obtain ⟨tabled, objects, writes, suits, carried⟩ := writes parcel returned_parcelField
  have selected : weightField ∈ Config.selectedFields {} parcel := List.mem_singleton_self _
  refine ⟨legible_of_reaches, planned, tabled, objects, writes, ?_, ?_⟩
  · rw [suits parcel (writes.subset writes.starts) weightField selected]
    exact not_vouches
  · by_contra every
    push Not at every
    have resolves := carried.mp every parcel writes.starts weightField selected rfl
    revert resolves
    decide

open Parcels in
/-- The introspection result loads, unless a check of it as a whole forbids that. The fragment that
is planned for parcels then spreads one for weights. There is none, since a weight is a scalar. -/
theorem Config.planField_parcels :
    (∀ [Schema.Language] (checked : Bool),
      (checked = true → Schema.Language.check (Introspection.unwrap introspection) = .pass) →
        Schema.ofIntrospection introspection checked = .ok post) ∧
    (query, parcelField) ∈ operationFields post ∧
    Config.planField {} post query parcelField = .ok parcelPlan ∧
    post.returnType weightField = .ok { name := .string "Weight", body := .scalar } ∧
    ("ParcelFragment", parcelBody) ∈ parcelPlan.fragments ∧
    Fragment.spreads parcelBody "WeightFragment" = true ∧
    "WeightFragment" ∉ parcelPlan.fragments.keys := by
  have decoded : Introspection.decode introspection = .ok post := by decide +kernel
  refine ⟨fun {_} checked passed => ?_, List.mem_singleton_self _, planned, rfl,
    List.mem_singleton_self _, by decide +kernel, by decide⟩
  rw [Schema.ofIntrospection, decoded]
  cases checked with
  | false => rfl
  | true => simp only [passed rfl, Except.mapError, bind, Except.bind, if_true, pure, Except.pure]

end GraphqlRequests
