import GraphqlRequests.Proofs.Plan.Failures
import GraphqlRequests.Proofs.Selection.Spread

/-!
# The graph of spreads

Between the fragments of a plan, one spreads another exactly where a selected field of its type
refers to the other's type. So a document has a cycle of spreads exactly where the selected fields
have one between types.
-/

namespace GraphqlRequests

open Relation (TransGen)

/-- The body under the first key spreads the second one, which is a key of the table as well. -/
def Fragment.Table.Links (table : Table) (first second : String) : Prop :=
  ∃ body, (first, body) ∈ table ∧ second ∈ table.keys ∧ spreads body second = true

variable {ν : Type} [DecidableEq ν] [Name ν]

/-- A selected field of the first type refers to the second one, as an object type. -/
def Config.Links (config : Config) (schema : Schema ν) (first second : ν) : Prop :=
  ∃ object, schema.object? first = some object ∧
    ∃ field ∈ config.selectedFields object, field.type.innermost = ⟨.object, second⟩

variable {config : Config} {schema : Schema ν} {operation : Operation ν} {field : Field ν}
variable {plan : Plan ν} {root object : ObjectType ν}

theorem Config.spreads_fragment (legible : object.Legible) {selection : Selection ν}
    (made : config.selection object = .ok selection) {body : String}
    (done : selection.fragment = .ok body) {type : ν} (written : Name.Written type) :
    Fragment.spreads body (Fragment.key (Name.shown type)) = true ↔
      ∃ field ∈ config.selectedFields object, field.type.innermost = ⟨.object, type⟩ := by
  obtain rfl := Config.selection_ok made
  rw [Selection.spreads_fragment legible done written.isName_shown, written.ofText_shown]
  constructor
  · rintro ⟨field, declared, selected, refers⟩
    obtain ⟨other, member, same⟩ := List.mem_map.mp selected
    obtain rfl := List.inj_on_of_nodup_map legible.distinct (mem_of_mem_selectedFields member)
      declared same
    exact ⟨other, member, refers⟩
  · rintro ⟨field, member, refers⟩
    exact ⟨field, mem_of_mem_selectedFields member, List.mem_map_of_mem member, refers⟩

namespace Config.Planned

variable (planned : config.Planned schema operation field root plan)
variable (legible : ∀ object, schema.Reaches field object → object.Legible)
include planned legible

theorem exists_selection_of_mem_table {e : String × String} (member : e ∈ plan.table) :
    ∃ object selection, schema.Reaches field object ∧ config.selection object = .ok selection ∧
      selection.fragment = .ok e.2 ∧ e.1 = Fragment.key (Name.shown object.name) := by
  obtain ⟨made, -, -⟩ := Config.fragmentTable_ok planned.table
  obtain ⟨text, listed, done⟩ := exists_of_mem_mapM made e member
  obtain ⟨object, reached, rfl⟩ := (mem_sortedTypes_iff planned.reachable).mp listed
  have written := (legible object reached).named
  rw [written.text_eq_shown] at done
  have found := reached.found
  rw [← written.ofText_shown] at found
  obtain ⟨selection, selected, rendered, -⟩ := Config.parts_of_fragment found done
  exact ⟨object, selection, reached, selected, rendered, Config.key_of_fragment done⟩

theorem exists_of_mem_table {e : String × String} (member : e ∈ plan.table) :
    ∃ object, schema.Reaches field object ∧ e.1 = Fragment.key (Name.shown object.name) ∧
      ∀ type, Name.Written type → (Fragment.spreads e.2 (Fragment.key (Name.shown type)) = true ↔
        ∃ inner ∈ config.selectedFields object, inner.type.innermost = ⟨.object, type⟩) := by
  obtain ⟨object, selection, reached, selected, rendered, key⟩ :=
    planned.exists_selection_of_mem_table legible member
  refine ⟨object, reached, key, fun type named => ?_⟩
  exact Config.spreads_fragment (legible object reached) selected rendered named

theorem mem_keys_table (reached : schema.Reaches field object) :
    Fragment.key (Name.shown object.name) ∈ plan.table.keys := by
  obtain ⟨-, keys, -⟩ := Config.fragmentTable_ok planned.table
  rw [keys, ← (legible object reached).named.text_eq_shown]
  exact List.mem_map_of_mem ((mem_sortedTypes_iff planned.reachable).mpr ⟨object, reached, rfl⟩)

theorem fragments_closed (returned : schema.returned? field = some root) :
    plan.fragments ⊆ plan.table ∧ plan.fragments.keys.Nodup ∧
      Fragment.Closed plan.table plan.rootKeys {key | key ∈ plan.fragments.keys} := by
  obtain ⟨-, -, distinct⟩ := Config.fragmentTable_ok planned.table
  obtain ⟨left, expanding⟩ := planned.expanding (planned.mem_keys_table legible (.start returned))
  have parted := expanding.parted
  rw [List.append_nil] at parted
  exact ⟨parted.subset, parted.distinct, expanding.closed distinct⟩

theorem spreads_body_iff (returned : schema.returned? field = some root) {first second : ν}
    (found : schema.object? first = some object) (one : Name.Written first)
    (two : Name.Written second) {body : String}
    (member : (Fragment.key (Name.shown first), body) ∈ plan.fragments) :
    Fragment.spreads body (Fragment.key (Name.shown second)) = true ↔
      ∃ inner ∈ config.selectedFields object, inner.type.innermost = ⟨.object, second⟩ := by
  obtain ⟨inside, -, -⟩ := planned.fragments_closed legible returned
  obtain ⟨entry, reached, key, spreads⟩ := planned.exists_of_mem_table legible (inside member)
  have named : first = entry.name :=
    (one.shown_inj (legible entry reached).named).mp (key_injective key)
  obtain rfl : entry = object := by
    rw [named, reached.found] at found
    exact Option.some.inj found
  exact spreads second two

end Config.Planned

/-! ### Types of fragments -/

structure Plan.Carries (schema : Schema ν) (field : Field ν) (plan : Plan ν)
    (types : List ν) : Prop where
  keys : plan.fragments.keys = types.map fun type => Fragment.key (Name.shown type)
  reached : ∀ type ∈ types, ∃ object, schema.Reaches field object ∧ object.name = type

namespace Plan.Carries

variable {types : List ν} (carries : Plan.Carries schema field plan types)
variable (planned : config.Planned schema operation field root plan)
variable (legible : ∀ object, schema.Reaches field object → object.Legible)
include carries legible

theorem written {type : ν} (member : type ∈ types) : Name.Written type := by
  obtain ⟨object, reached, rfl⟩ := carries.reached type member
  exact (legible object reached).named

theorem mem_keys_iff {type : ν} (written : Name.Written type) :
    Fragment.key (Name.shown type) ∈ plan.fragments.keys ↔ type ∈ types := by
  rw [carries.keys, List.mem_map]
  constructor
  · rintro ⟨other, member, same⟩
    rwa [((carries.written legible member).shown_inj written).mp (key_injective same)] at member
  · exact fun member => ⟨type, member, rfl⟩

variable (returned : schema.returned? field = some root)
include planned returned

theorem links_iff {first second : ν} (one : first ∈ types) (two : second ∈ types) :
    plan.fragments.Links (Fragment.key (Name.shown first)) (Fragment.key (Name.shown second)) ↔
      config.Links schema first second := by
  have here := carries.written legible one
  have there := carries.written legible two
  constructor
  · rintro ⟨body, member, -, spread⟩
    obtain ⟨object, reached, rfl⟩ := carries.reached first one
    exact ⟨object, reached.found,
      (planned.spreads_body_iff legible returned reached.found here there member).mp spread⟩
  · rintro ⟨object, found, refers⟩
    have key := (carries.mem_keys_iff legible here).mpr one
    obtain ⟨body, member⟩ := Fragment.Table.mem_keys.mp key
    refine ⟨body, member, (carries.mem_keys_iff legible there).mpr two, ?_⟩
    exact (planned.spreads_body_iff legible returned found here there member).mpr refers

theorem mem_of_links {first second : ν} (one : first ∈ types)
    (links : config.Links schema first second) {next : ObjectType ν}
    (resolves : schema.object? second = some next) : second ∈ types := by
  obtain ⟨object, found, inner, selected, refers⟩ := links
  obtain ⟨entry, reached, rfl⟩ := carries.reached first one
  obtain rfl := Option.some.inj (reached.found.symm.trans found)
  have here := (legible entry reached).named
  -- The field returns the object type, which is reached and has its fragment in the table.
  have below : schema.returned? inner = some next := by
    rw [Schema.returned?, refers]
    exact resolves
  have beyond : schema.Reaches field next :=
    .step reached (Config.mem_of_mem_selectedFields selected) below
  have named : next.name = second :=
    (legible next beyond).named.eq_of_key (Schema.key_of_object? resolves)
  have written : Name.Written second := named ▸ (legible next beyond).named
  have known := planned.mem_keys_table legible beyond
  rw [named] at known
  -- Its key is spread by a fragment of the plan, so that the closure holds it.
  obtain ⟨inside, -, -, closed⟩ := planned.fragments_closed legible returned
  have key := (carries.mem_keys_iff legible here).mpr one
  obtain ⟨body, member⟩ := Fragment.Table.mem_keys.mp key
  have spread := (planned.spreads_body_iff legible returned reached.found here written member).mpr
    ⟨inner, selected, refers⟩
  exact (carries.mem_keys_iff legible written).mp (closed _ (inside member) key _ known spread)

theorem transGen_of_fragments {first : ν} (one : first ∈ types) {key : String}
    (path : TransGen plan.fragments.Links (Fragment.key (Name.shown first)) key) :
    ∃ second ∈ types, key = Fragment.key (Name.shown second) ∧
      TransGen (config.Links schema) first second := by
  have target : ∀ {before after}, plan.fragments.Links before after →
      ∃ second ∈ types, after = Fragment.key (Name.shown second) := by
    rintro before after ⟨_, -, known, -⟩
    rw [carries.keys] at known
    obtain ⟨second, member, same⟩ := List.mem_map.mp known
    exact ⟨second, member, same.symm⟩
  induction path with
  | single link =>
    obtain ⟨second, two, rfl⟩ := target link
    exact ⟨second, two, rfl,
      .single ((carries.links_iff planned legible returned one two).mp link)⟩
  | tail _ link ih =>
    obtain ⟨middle, between, rfl, path⟩ := ih
    obtain ⟨second, two, rfl⟩ := target link
    exact ⟨second, two, rfl,
      path.tail ((carries.links_iff planned legible returned between two).mp link)⟩

/-- A path that starts at a carried type only meets carried types, if its end is an object type: all
others on it have fields. -/
theorem transGen_of_types {first second : ν} (one : first ∈ types)
    (path : TransGen (config.Links schema) first second) {next : ObjectType ν}
    (resolves : schema.object? second = some next) : second ∈ types ∧
      TransGen plan.fragments.Links (Fragment.key (Name.shown first))
        (Fragment.key (Name.shown second)) := by
  induction path generalizing next with
  | single link =>
    have two := carries.mem_of_links planned legible returned one link resolves
    exact ⟨two, .single ((carries.links_iff planned legible returned one two).mpr link)⟩
  | tail _ link ih =>
    obtain ⟨object, found, refers⟩ := link
    have link : config.Links schema _ _ := ⟨object, found, refers⟩
    obtain ⟨between, path⟩ := ih found
    have two := carries.mem_of_links planned legible returned between link resolves
    exact ⟨two, path.tail ((carries.links_iff planned legible returned between two).mpr link)⟩

theorem cycle_iff : (∃ key, TransGen plan.fragments.Links key key) ↔
    ∃ type ∈ types, TransGen (config.Links schema) type type := by
  constructor
  · rintro ⟨key, path⟩
    obtain ⟨first, one, rfl⟩ : ∃ first ∈ types, Fragment.key (Name.shown first) = key := by
      obtain ⟨_, ⟨_, member, -, -⟩, -⟩ := TransGen.head'_iff.mp path
      have known := Fragment.Table.mem_keys_of_mem member
      rw [carries.keys] at known
      exact List.mem_map.mp known
    obtain ⟨second, two, same, path⟩ :=
      carries.transGen_of_fragments planned legible returned one path
    have here := carries.written legible one
    obtain rfl := (here.shown_inj (carries.written legible two)).mp (key_injective same)
    exact ⟨first, one, path⟩
  · rintro ⟨type, member, path⟩
    obtain ⟨object, reached, rfl⟩ := carries.reached type member
    exact ⟨_, (carries.transGen_of_types planned legible returned member path reached.found).2⟩

end Plan.Carries

theorem Config.Planned.exists_carries (planned : config.Planned schema operation field root plan)
    (legible : ∀ object, schema.Reaches field object → object.Legible)
    (returned : schema.returned? field = some root) :
    ∃ types : List ν, types.Nodup ∧ Plan.Carries schema field plan types := by
  obtain ⟨inside, distinct, -⟩ := planned.fragments_closed legible returned
  have each : ∀ key ∈ plan.fragments.keys, ∃ type,
      (∃ object, schema.Reaches field object ∧ object.name = type) ∧
      Fragment.key (Name.shown type) = key := by
    intro key member
    obtain ⟨body, entry⟩ := Fragment.Table.mem_keys.mp member
    obtain ⟨object, reached, same, -⟩ := planned.exists_of_mem_table legible (inside entry)
    exact ⟨object.name, ⟨object, reached, rfl⟩, same.symm⟩
  obtain ⟨types, keys, reached⟩ := exists_map_eq each
  rw [← keys] at distinct
  exact ⟨types, distinct.of_map, keys.symm, reached⟩

/-- The text of a rendered selection spreads the key of a type exactly where a selected field refers
to this type as an object type. So the fragments of a plan, each for another type that the field
reaches, spread each other as the selected fields of these types refer to each other, and there is a
cycle of spreads exactly where there is one of such references. -/
theorem Selection.spreads_exact :
    (∀ (selection : Selection ν) (body type : String), selection.type.Legible →
      selection.fragment = .ok body → Sdl.isName type.toList = true →
      (Fragment.spreads body (Fragment.key type) = true ↔
        ∃ field ∈ selection.type.fields, field.name ∈ selection.selected ∧
          field.type.innermost = ⟨.object, Name.ofText type⟩)) ∧
    ∀ (config : Config) (schema : Schema ν) (operation : Operation ν) (field : Field ν)
      (plan : Plan ν), (∀ object, schema.Reaches field object → object.Legible) →
      config.planField schema operation field = .ok plan →
      ∃ types : List ν, types.Nodup ∧
        plan.fragments.keys = types.map (fun type => Fragment.key (Name.shown type)) ∧
        (∀ type ∈ types, ∃ object, schema.Reaches field object ∧ object.name = type) ∧
        (∀ first ∈ types, ∀ second ∈ types,
          plan.fragments.Links (Fragment.key (Name.shown first))
            (Fragment.key (Name.shown second)) ↔ config.Links schema first second) ∧
        ((∃ key, TransGen plan.fragments.Links key key) ↔
          ∃ type ∈ types, TransGen (config.Links schema) type type) := by
  refine ⟨fun selection body type legible done named =>
    Selection.spreads_fragment legible done named, ?_⟩
  intro config schema operation field plan legible planned
  cases returned : schema.returned? field with
  | some root =>
    have planned := (Config.planField_ok returned).mp planned
    obtain ⟨types, distinct, carries⟩ := planned.exists_carries legible returned
    exact ⟨types, distinct, carries.keys, carries.reached,
      fun _ one _ two => carries.links_iff planned legible returned one two,
      carries.cycle_iff planned legible returned⟩
  | none =>
    -- Without an object type to select from there are no fragments.
    rw [Config.planField_eq, returned] at planned
    obtain ⟨map, -, planned⟩ := bind_ok planned
    obtain rfl := Except.ok.inj planned
    refine ⟨[], List.nodup_nil, rfl, by simp, by simp, ?_⟩
    constructor
    · rintro ⟨key, path⟩
      obtain ⟨_, ⟨_, member, -, -⟩, -⟩ := TransGen.head'_iff.mp path
      cases member
    · rintro ⟨type, member, -⟩
      cases member

namespace Fleet

theorem legible_of_reaches (object : ObjectType String) (reached : fleet.Reaches heroField object) :
    object.Legible := by
  obtain ⟨type, found, whole⟩ := Schema.object?_eq_some.mp reached.found
  have member := Schema.mem_of_type? found
  simp only [fleet, List.mem_cons, List.not_mem_nil, or_false] at member
  rcases member with rfl | rfl | rfl | rfl | rfl <;> cases whole
  all_goals exact ⟨by decide, by decide, by decide, by decide, by decide⟩

theorem legible_ship : ship.Legible :=
  ⟨by decide, by decide, by decide, by decide, by decide⟩

end Fleet

open Fleet in
theorem Selection.spreads_exact_of_cycle : ship.Legible ∧
    (∃ body, Selection.fragment ⟨ship, ["heir"]⟩ = .ok body ∧
      Fragment.spreads body "HeroV2Fragment" = true ∧
      Fragment.spreads body "HeroFragment" = false) ∧
    (∀ object, fleet.Reaches heroField object → object.Legible) ∧
    ∃ plan, pilots.planField fleet query heroField = .ok plan ∧
      plan.fragments.Links "HeroFragment" "ShipFragment" ∧
      ∃ key, TransGen plan.fragments.Links key key := by
  obtain ⟨exact, graph⟩ := @Selection.spreads_exact String _ _
  refine ⟨legible_ship, ?_, legible_of_reaches, ?_⟩
  · let body := Text.unlines ["fragment ShipFragment on Ship \x7b", "  heir \x7b",
      "    ...HeroV2Fragment", "  \x7d", "\x7d"]
    have rendered : Selection.fragment ⟨ship, ["heir"]⟩ = .ok body := by decide +kernel
    have heir := exact ⟨ship, ["heir"]⟩ body "HeroV2" legible_ship rendered (by decide)
    have hero := exact ⟨ship, ["heir"]⟩ body "Hero" legible_ship rendered (by decide)
    refine ⟨body, rendered, heir.mpr (by decide), Bool.eq_false_iff.mpr fun spread => ?_⟩
    exact absurd (hero.mp spread) (by decide)
  · obtain ⟨plan, planned, keys, -⟩ := exists_plan
    obtain ⟨types, -, carried, -, links, cycle⟩ :=
      graph pilots fleet query heroField plan legible_of_reaches planned
    have both : types.map Fragment.key = ["Hero", "Ship"].map Fragment.key :=
      carried.symm.trans keys
    obtain rfl : types = ["Hero", "Ship"] := List.map_injective_iff.mpr key_injective both
    have toShip : pilots.Links fleet "Hero" "Ship" :=
      ⟨hero, rfl, { name := "ships", type := .list (.named ⟨.object, "Ship"⟩) }, by decide, rfl⟩
    have toHero : pilots.Links fleet "Ship" "Hero" :=
      ⟨ship, rfl, { name := "pilot", type := .named ⟨.object, "Hero"⟩ }, by decide, rfl⟩
    refine ⟨plan, planned, (links "Hero" (by decide) "Ship" (by decide)).mpr toShip, ?_⟩
    exact cycle.mpr ⟨"Hero", by decide, .head toShip (.single toHero)⟩

end GraphqlRequests
