import GraphqlRequests.Proofs.Reach.Walk

/-!
# The order of discovery

A depth-first search discovers an object type with each field that returns one. What `reachable`
collects, in maps of its own below each expanded type, is what comes of inserting the discoveries
into a single map, one by one: a type stands where it was first discovered, with the field that was
found last.
-/

namespace GraphqlRequests

variable {ν : Type} [DecidableEq ν]

namespace FieldMap

variable {map found : FieldMap ν} {name type : ν} {field : Field ν}

omit [DecidableEq ν] in
theorem keys_cons (e : ν × Field ν) (rest : FieldMap ν) : keys (e :: rest) = e.1 :: keys rest :=
  rfl

theorem keys_insert : (map.insert type field).keys
    = if type ∈ map.keys then map.keys else map.keys ++ [type] := by
  induction map with
  | nil => simp [insert, keys]
  | cons e rest ih =>
    obtain ⟨t, f⟩ := e
    by_cases same : t = type
    · simp [insert, keys, same]
    · simp only [insert, if_neg same, keys_cons, ih, List.mem_cons, Ne.symm same, false_or]
      split <;> rfl

theorem keys_update : (map.update found).keys
    = map.keys ++ (found.keys.filter fun name => name ∉ map.keys).eraseDups := by
  induction found generalizing map with
  | nil => simp [update, keys]
  | cons e rest ih =>
    obtain ⟨type, field⟩ := e
    have onward : (map.update ((type, field) :: rest)).keys
        = ((map.insert type field).update rest).keys := rfl
    rw [onward, ih, keys_insert, keys_cons]
    by_cases known : type ∈ map.keys
    · rw [if_pos known, List.filter_cons_of_neg (by simpa using known)]
    · have others : ((keys rest).filter fun name => name ∉ map.keys ++ [type])
          = ((keys rest).filter fun name => name ∉ map.keys).filter fun name => !name == type := by
        rw [List.filter_filter]
        refine List.filter_congr fun name _ => ?_
        by_cases same : name = type <;> simp [same, known]
      rw [if_neg known, others, List.filter_cons_of_pos (by simpa using known),
        List.eraseDups_cons, List.append_assoc]
      rfl

theorem lookup_update : (map.update found).lookup name
    = (found.reverse.lookup name).or (map.lookup name) := by
  induction found generalizing map with
  | nil => rfl
  | cons e rest ih =>
    obtain ⟨type, field⟩ := e
    have onward : (map.update ((type, field) :: rest)).lookup name
        = ((map.insert type field).update rest).lookup name := rfl
    rw [onward, ih, lookup_insert, List.reverse_cons, List.lookup_append, Option.or_assoc]
    congr 1
    by_cases same : name = type
    · simp [same]
    · have differs : (name == type) = false := by simpa using same
      simp [same, List.lookup_cons, differs]

end FieldMap

namespace Schema

variable [Name ν] {schema : Schema ν}

/-- The object types that visited fields return, each with the field, in the order of the visits. -/
def discoveries (schema : Schema ν) (order : List (Field ν)) : FieldMap ν :=
  order.filterMap fun field => (schema.returned? field).map fun object => (object.name, field)

theorem foldl_record (order : List (Field ν)) (found : FieldMap ν) :
    order.foldl schema.record found = found.update (schema.discoveries order) := by
  induction order generalizing found with
  | nil => rfl
  | cons field rest ih =>
    rw [List.foldl_cons, ih, record, discoveries, discoveries, List.filterMap_cons]
    cases schema.returned? field <;> rfl

namespace Visits

variable {seen after : List ν} {fields order : List (Field ν)}

/-- A search visits its fields and, once each, those of the object types that it expands. -/
theorem exists_expanded (visits : Visits schema seen fields order after) :
    ∃ objects : List (ObjectType ν), after = (objects.map (·.name)).reverse ++ seen ∧
      order.Perm (fields ++ objects.flatMap (·.fields)) ∧
      ∀ object ∈ objects, ∃ field ∈ order, schema.returned? field = some object := by
  induction visits with
  | nil seen => exact ⟨[], rfl, .nil, by simp⟩
  | leaf _ _ ih | again _ _ _ ih =>
    obtain ⟨objects, expanded, visited, returned⟩ := ih
    refine ⟨objects, expanded, visited.cons _, fun object member => ?_⟩
    obtain ⟨field, met, found⟩ := returned object member
    exact ⟨field, List.mem_cons_of_mem _ met, found⟩
  | @first seen field rest below inner order after object returned _ _ _ inside beside =>
    obtain ⟨deeper, expandedBelow, visitedBelow, returnedBelow⟩ := inside
    obtain ⟨others, expandedBeside, visitedBeside, returnedBeside⟩ := beside
    refine ⟨object :: (deeper ++ others), ?_, ?_, ?_⟩
    · simp [expandedBeside, expandedBelow]
    · -- The object type's own fields are visited before the rest, but counted behind it.
      have both := (visitedBelow.append visitedBeside).cons field
      refine both.trans (List.Perm.cons _ ?_)
      simp only [List.flatMap_cons, List.flatMap_append, List.append_assoc]
      calc object.fields ++ (deeper.flatMap (·.fields) ++ (rest ++ others.flatMap (·.fields)))
          = (object.fields ++ deeper.flatMap (·.fields)) ++ (rest ++ others.flatMap (·.fields)) := by
            rw [List.append_assoc]
        _ |>.Perm (rest ++ ((object.fields ++ deeper.flatMap (·.fields)) ++ others.flatMap (·.fields)))
          := List.perm_append_comm_assoc _ _ _
        _ = _ := by rw [List.append_assoc]; rfl
    · intro expanded member
      rcases List.mem_cons.mp member with rfl | member
      · exact ⟨field, List.mem_cons_self, returned⟩
      rcases List.mem_append.mp member with deep | beside
      · obtain ⟨field, met, found⟩ := returnedBelow expanded deep
        exact ⟨field, List.mem_cons_of_mem _ (List.mem_append_left _ met), found⟩
      · obtain ⟨field, met, found⟩ := returnedBeside expanded beside
        exact ⟨field, List.mem_cons_of_mem _ (List.mem_append_right _ met), found⟩

theorem nodup_after (visits : Visits schema seen fields order after) (distinct : seen.Nodup) :
    after.Nodup := by
  induction visits with
  | nil => exact distinct
  | leaf _ _ ih | again _ _ _ ih => exact ih distinct
  | first _ new _ _ inside beside => exact beside (inside (List.nodup_cons.mpr ⟨new, distinct⟩))

theorem exists_reached {start : Field ν} (visits : Visits schema [] [start] order after) :
    ∃ objects : List (ObjectType ν), objects.Nodup ∧
      (∀ object, object ∈ objects ↔ schema.Reaches start object) ∧
      order.Perm (start :: objects.flatMap (·.fields)) := by
  obtain ⟨objects, expanded, visited, returned⟩ := visits.exists_expanded
  rw [List.append_nil] at expanded
  have distinct : (objects.map (·.name)).Nodup := by
    have after := visits.nodup_after List.nodup_nil
    rwa [expanded, (List.reverse_perm _).nodup_iff] at after
  have once : objects.Nodup :=
    List.Pairwise.of_map _ (fun _ _ differs same => differs (same ▸ rfl)) distinct
  refine ⟨objects, once, fun object => ⟨fun member => ?_, fun reached => ?_⟩, visited⟩
  · obtain ⟨field, met, found⟩ := returned object member
    exact reaches_iff.mpr ⟨field, visits.mem_iff_meets.mp met, found⟩
  · obtain ⟨field, meets, found⟩ := reaches_iff.mp reached
    have named := visits.expanded_of_mem field (visits.mem_iff_meets.mpr meets) object found
    simp only [expanded, List.mem_reverse, List.mem_map] at named
    obtain ⟨other, member, same⟩ := named
    obtain ⟨field', -, found'⟩ := returned other member
    obtain rfl := object?_unique found' found same
    exact member

end Visits

/-- Where the walk from a field succeeds, a depth-first search from it visits every field of every
reachable object type once. The map is what comes of inserting the discovered types one by one: they
are in the order in which they are first discovered, each with the field that is last found to
return it. -/
theorem reachable_eq_update {start : Field ν} {map : FieldMap ν}
    (found : schema.reachable start = .ok map) :
    (∃ order after, Visits schema [] [start] order after) ∧
    ∀ order after, Visits schema [] [start] order after →
      (∃ objects : List (ObjectType ν), objects.Nodup ∧
        (∀ object, object ∈ objects ↔ schema.Reaches start object) ∧
        order.Perm (start :: objects.flatMap (·.fields))) ∧
      map = FieldMap.update [] (schema.discoveries order) ∧
      map.keys = ((schema.discoveries order).map Prod.fst).eraseDups ∧
      ∀ name, map.lookup name = (schema.discoveries order).reverse.lookup name := by
  refine ⟨Visits.total schema [] [start], fun order after visits => ?_⟩
  have inserted : map = FieldMap.update [] (schema.discoveries order) := by
    rw [(reachable_ok visits found).2, foldl_record]
  refine ⟨visits.exists_reached, inserted, ?_, fun name => ?_⟩
  · have fresh : (FieldMap.keys (schema.discoveries order)).filter (fun name => name ∉ FieldMap.keys [])
        = FieldMap.keys (schema.discoveries order) := by simp [FieldMap.keys]
    rw [inserted, FieldMap.keys_update, fresh]
    rfl
  · rw [inserted, FieldMap.lookup_update]
    simp

end Schema

/-! ### A schema with a cycle -/

namespace Convoy

def flagship : Field String where
  name := "flagship"
  type := .named ⟨.object, "Ship"⟩

def pilot : Field String where
  name := "pilot"
  type := .named ⟨.object, "Pilot"⟩

def title : Field String where
  name := "title"
  type := .named ⟨.scalar, "String"⟩

def ships : Field String where
  name := "ships"
  type := .list (.named ⟨.object, "Ship"⟩)

def mentor : Field String where
  name := "mentor"
  type := .named ⟨.object, "Pilot"⟩

end Convoy

open Convoy in
def convoy : Schema String where
  types := [
    { name := "Query", body := .object [flagship] [] },
    { name := "Ship", body := .object [pilot, title] [] },
    { name := "Pilot", body := .object [title, ships, mentor] [] },
    { name := "String", body := .scalar }]
  roots := ⟨"Query", none, none⟩

namespace Convoy

theorem visits : convoy.Visits [] [flagship] [flagship, pilot, title, ships, mentor, title]
    ["Pilot", "Ship"] := by
  have returnsPilot : convoy.returned? pilot
      = some { name := "Pilot", fields := [title, ships, mentor] } := rfl
  have returnsShip : convoy.returned? flagship
      = some { name := "Ship", fields := [pilot, title] } := rfl
  have ofPilot : convoy.Visits ["Pilot", "Ship"] [title, ships, mentor] [title, ships, mentor]
      ["Pilot", "Ship"] :=
    .leaf rfl (.again rfl (by decide) (.again rfl (by decide) (.nil _)))
  have ofShip : convoy.Visits ["Ship"] [pilot, title] [pilot, title, ships, mentor, title]
      ["Pilot", "Ship"] :=
    .first returnsPilot (by decide) ofPilot (.leaf rfl (.nil _))
  exact .first returnsShip (by decide) ofShip (.nil _)

end Convoy

open Convoy in
theorem Schema.reachable_eq_update_of_cycle : ∃ map, convoy.reachable flagship = .ok map ∧
    convoy.discoveries [flagship, pilot, title, ships, mentor, title]
      = [("Ship", flagship), ("Pilot", pilot), ("Ship", ships), ("Pilot", mentor)] ∧
    map.keys = ["Ship", "Pilot"] ∧
    map.lookup "Ship" = some ships ∧ map.lookup "Pilot" = some mentor := by
  have discovered : convoy.discoveries [flagship, pilot, title, ships, mentor, title]
      = [("Ship", flagship), ("Pilot", pilot), ("Ship", ships), ("Pilot", mentor)] := rfl
  have walked : convoy.reachable flagship = .ok [("Ship", ships), ("Pilot", mentor)] := by
    rw [Schema.reachable_eq visits]
    rfl
  obtain ⟨-, all⟩ := Schema.reachable_eq_update walked
  obtain ⟨-, -, keys, last⟩ := all _ _ visits
  rw [discovered] at keys last
  exact ⟨_, walked, discovered, keys, last "Ship", last "Pilot"⟩

end GraphqlRequests
