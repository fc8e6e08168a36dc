import GraphqlRequests.Proofs.Reach.Visits

/-!
# The walk to reachable types

`walk` is a fold over the depth-first visits: each met field is resolved and recorded in turn. For
this the maps that are made below single fields come to one map. So `reachable` succeeds exactly
where no field that can be met offends, finds exactly the reachable object types, and fails as the
first field that offends does.
-/

namespace GraphqlRequests

variable {ν : Type} [DecidableEq ν]

namespace FieldMap

def keys (map : FieldMap ν) : List ν :=
  map.map Prod.fst

theorem mem_keys_insert {map : FieldMap ν} {type name : ν} {field : Field ν} :
    name ∈ (map.insert type field).keys ↔ name = type ∨ name ∈ map.keys := by
  induction map with
  | nil => simp [insert, keys]
  | cons e rest ih =>
    obtain ⟨t, f⟩ := e
    simp only [keys] at ih
    by_cases same : t = type
    · simp [insert, keys, same]
    · simp only [insert, keys, if_neg same, List.map_cons, List.mem_cons, ih]
      exact or_left_comm

theorem nodup_keys_insert {map : FieldMap ν} (distinct : map.keys.Nodup) (type : ν)
    (field : Field ν) : (map.insert type field).keys.Nodup := by
  induction map with
  | nil => simp [insert, keys]
  | cons e rest ih =>
    obtain ⟨t, f⟩ := e
    simp only [keys, List.map_cons, List.nodup_cons] at distinct
    by_cases same : t = type
    · subst same
      simpa only [insert, if_true, keys, List.map_cons, List.nodup_cons] using distinct
    · simp only [insert, if_neg same, keys, List.map_cons, List.nodup_cons]
      refine ⟨fun inside => ?_, ih distinct.2⟩
      rcases mem_keys_insert.mp inside with named | old
      · exact same named
      · exact distinct.1 old

theorem mem_of_mem_insert {map : FieldMap ν} {type : ν} {field : Field ν} {e : ν × Field ν}
    (member : e ∈ map.insert type field) : e = (type, field) ∨ e ∈ map := by
  induction map with
  | nil => exact .inl (List.mem_singleton.mp member)
  | cons d rest ih =>
    obtain ⟨t, f⟩ := d
    simp only [insert] at member
    split at member
    · next same =>
      rcases List.mem_cons.mp member with here | later
      · exact .inl (here.trans (by rw [same]))
      · exact .inr (List.mem_cons_of_mem _ later)
    · rcases List.mem_cons.mp member with here | later
      · exact .inr (here ▸ List.mem_cons_self)
      · exact (ih later).imp_right (List.mem_cons_of_mem _)

/-! ### Maps put into maps -/

variable {map other : FieldMap ν} {type name : ν} {field later : Field ν}

theorem insert_insert : (map.insert type field).insert type later = map.insert type later := by
  induction map with
  | nil => simp [insert]
  | cons e rest ih =>
    obtain ⟨t, f⟩ := e
    by_cases same : t = type
    · simp [insert, same]
    · simp [insert, same, ih]

theorem insert_comm (known : name ∈ map.keys) (differs : type ≠ name) :
    (map.insert type field).insert name later = (map.insert name later).insert type field := by
  induction map with
  | nil => cases known
  | cons e rest ih =>
    obtain ⟨t, f⟩ := e
    by_cases here : t = name
    · subst here
      simp [insert, Ne.symm differs]
    · have below : name ∈ keys rest := (List.mem_cons.mp known).resolve_left (Ne.symm here)
      by_cases same : t = type
      · subst same
        simp [insert, differs]
      · simp [insert, here, same, ih below]

theorem update_insert_of_not_mem (known : name ∈ map.keys) (fresh : name ∉ other.keys) :
    (map.update other).insert name later = (map.insert name later).update other := by
  induction other generalizing map with
  | nil => rfl
  | cons e rest ih =>
    obtain ⟨differs, others⟩ := List.ne_and_not_mem_of_not_mem_cons fresh
    have still : name ∈ (map.insert e.1 e.2).keys := mem_keys_insert.mpr (.inr known)
    rw [update, List.foldl_cons, ← update, ih still others, insert_comm known (Ne.symm differs)]
    rfl

theorem update_insert (distinct : other.keys.Nodup) :
    map.update (other.insert name later) = (map.update other).insert name later := by
  induction other generalizing map with
  | nil => rfl
  | cons e rest ih =>
    obtain ⟨t, f⟩ := e
    obtain ⟨fresh, others⟩ := List.nodup_cons.mp distinct
    by_cases same : t = name
    · subst same
      have here : t ∈ (map.insert t f).keys := mem_keys_insert.mpr (.inl rfl)
      have behind : ((map.insert t f).update rest).insert t later = _ :=
        update_insert_of_not_mem here fresh
      rw [insert_insert] at behind
      simp only [insert, if_true]
      exact behind.symm
    · simp only [insert, if_neg same]
      exact ih others

end FieldMap

namespace Schema

variable [Name ν] {schema : Schema ν}

/-- Put a field into the map, under the object type that it returns. -/
def record (schema : Schema ν) (found : FieldMap ν) (field : Field ν) : FieldMap ν :=
  match schema.returned? field with
  | none => found
  | some object => found.insert object.name field

def visit (schema : Schema ν) (found : FieldMap ν) (field : Field ν) :
    Except ReachFailure (FieldMap ν) :=
  (schema.returnType field).map fun _ => schema.record found field

def walked (schema : Schema ν) (expanded : List ν) (found : FieldMap ν) (fields : List (Field ν)) :
    Except ReachFailure (FieldMap ν × List ν) :=
  (schema.walk expanded found fields).map fun w => (w.found, w.expanded)

theorem walked_nil (expanded : List ν) (found : FieldMap ν) :
    schema.walked expanded found [] = .ok (found, expanded) := by
  rw [walked, walk]
  rfl

theorem walked_cons (expanded : List ν) (found : FieldMap ν) (field : Field ν)
    (rest : List (Field ν)) :
    schema.walked expanded found (field :: rest) = schema.returnType field >>= fun _ =>
      match schema.returned? field with
      | none => schema.walked expanded found rest
      | some object =>
        if object.name ∈ expanded then
          schema.walked expanded (found.update [(object.name, field)]) rest
        else
          schema.walked (object.name :: expanded) [(object.name, field)] object.fields >>=
            fun below => schema.walked below.2 (found.update below.1) rest := by
  rw [walked, walk]
  split
  · next failed =>
    rw [failed]
    rfl
  · next type resolved =>
    rw [resolved, returned?_of_returnType resolved]
    cases whole : type.object? with
    | none => rfl
    | some object =>
      obtain ⟨name, _, fields, _⟩ := object
      obtain rfl : type.name = name := (NamedType.object?_eq_some.mp whole).1
      simp only [walked]
      split
      · rfl
      · cases schema.walk (type.name :: expanded) [(type.name, field)] fields with
        | error => rfl
        | ok below =>
          simp only [Except.map, bind, Except.bind]
          cases schema.walk below.expanded (found.update below.found) rest <;> rfl

/-- What is visited with a map of its own can be put into a map afterwards. -/
theorem foldlM_visit_update {map other : FieldMap ν} {order : List (Field ν)}
    (distinct : other.keys.Nodup) : order.foldlM schema.visit (map.update other)
      = (order.foldlM schema.visit other).map (map.update ·) := by
  induction order generalizing other with
  | nil => rfl
  | cons field rest ih =>
    rw [List.foldlM_cons, List.foldlM_cons, visit, visit]
    cases schema.returnType field with
    | error => rfl
    | ok type =>
      have recorded : schema.record (map.update other) field
          = map.update (schema.record other field) := by
        rw [record, record]
        split
        · rfl
        · exact (FieldMap.update_insert distinct).symm
      have still : (schema.record other field).keys.Nodup := by
        rw [record]
        split
        · exact distinct
        · exact FieldMap.nodup_keys_insert distinct _ _
      simp only [Except.map, recorded]
      exact ih still

/-- Walking through fields is visiting, one by one, what a depth-first search meets. -/
theorem walked_eq {expanded after : List ν} {fields order : List (Field ν)}
    (visits : Visits schema expanded fields order after) (found : FieldMap ν) :
    schema.walked expanded found fields = (order.foldlM schema.visit found).map (·, after) := by
  induction visits generalizing found with
  | nil seen => exact walked_nil seen found
  | @leaf _ field _ _ _ none _ ih =>
    rw [walked_cons, List.foldlM_cons, visit, record, none]
    cases schema.returnType field with
    | error => rfl
    | ok => exact ih found
  | @again _ field _ _ _ object returned old _ ih =>
    rw [walked_cons, List.foldlM_cons, visit, record, returned]
    cases schema.returnType field with
    | error => rfl
    | ok =>
      simp only [if_pos old]
      exact ih (found.insert object.name field)
  | @first _ field rest below inner order after object returned new _ _ inside beside =>
    -- What is below a field is found from that field alone, and put into the whole map later.
    have single : (FieldMap.keys [(object.name, field)]).Nodup := by simp [FieldMap.keys]
    have put : below.foldlM schema.visit (found.insert object.name field)
        = (below.foldlM schema.visit [(object.name, field)]).map (found.update ·) :=
      foldlM_visit_update single
    rw [walked_cons, List.foldlM_cons, visit, record, returned]
    cases schema.returnType field with
    | error => rfl
    | ok =>
      simp only [if_neg new, inside]
      change _ = ((below ++ order).foldlM schema.visit (found.insert object.name field)).map _
      rw [List.foldlM_append, put]
      cases below.foldlM schema.visit [(object.name, field)] with
      | error => rfl
      | ok own => exact beside (found.update own)

theorem reachable_eq {start : Field ν} {order : List (Field ν)} {after : List ν}
    (visits : Visits schema [] [start] order after) :
    schema.reachable start = order.foldlM schema.visit [] := by
  have walked : schema.walked [] [] [start] = _ := walked_eq visits []
  have same : schema.reachable start = (schema.walked [] [] [start]).map Prod.fst := by
    rw [reachable, Schema.walked]
    cases schema.walk [] [] [start] <;> rfl
  rw [same, walked]
  cases order.foldlM schema.visit [] <;> rfl

/-! ### Visiting one by one -/

theorem visit_ok {found : FieldMap ν} {field : Field ν} (fine : schema.offends field = false) :
    schema.visit found field = .ok (schema.record found field) := by
  obtain ⟨type, resolved⟩ := offends_eq_false.mp fine
  rw [visit, resolved]
  rfl

theorem foldlM_visit_ok {order : List (Field ν)}
    (fine : ∀ field ∈ order, schema.offends field = false) (found : FieldMap ν) :
    order.foldlM schema.visit found = .ok (order.foldl schema.record found) := by
  induction order generalizing found with
  | nil => rfl
  | cons field rest ih =>
    rw [List.foldlM_cons, visit_ok (fine field List.mem_cons_self)]
    exact ih (fun other member => fine other (List.mem_cons_of_mem _ member)) _

theorem foldlM_visit_error {order : List (Field ν)} {field : Field ν}
    (first : order.find? schema.offends = some field) (found : FieldMap ν) :
    ∃ failure, schema.returnType field = .error failure ∧
      order.foldlM schema.visit found = .error failure := by
  induction order generalizing found with
  | nil => cases first
  | cons head rest ih =>
    rw [List.foldlM_cons]
    cases offends : schema.offends head with
    | false =>
      rw [List.find?_cons_of_neg (by simp [offends])] at first
      rw [visit_ok offends]
      exact ih first _
    | true =>
      rw [List.find?_cons_of_pos offends] at first
      obtain rfl := Option.some.inj first
      cases resolved : schema.returnType head with
      | ok type => simp [offends_eq_false.mpr ⟨type, resolved⟩] at offends
      | error failure => exact ⟨failure, rfl, by rw [visit, resolved]; rfl⟩

/-! ### What is recorded -/

theorem mem_keys_record {found : FieldMap ν} {field : Field ν} {name : ν} :
    name ∈ (schema.record found field).keys ↔
      (∃ object, schema.returned? field = some object ∧ object.name = name) ∨
      name ∈ found.keys := by
  rw [record]
  cases returned : schema.returned? field with
  | none => simp
  | some object => simp [FieldMap.mem_keys_insert, eq_comm]

theorem mem_keys_foldl_record {order : List (Field ν)} {found : FieldMap ν} {name : ν} :
    name ∈ (order.foldl schema.record found).keys ↔
      (∃ field ∈ order, ∃ object, schema.returned? field = some object ∧ object.name = name) ∨
      name ∈ found.keys := by
  induction order generalizing found with
  | nil => simp
  | cons field rest ih => simp only [List.foldl_cons, ih, mem_keys_record, List.mem_cons]; grind

theorem nodup_keys_foldl_record {order : List (Field ν)} {found : FieldMap ν}
    (distinct : found.keys.Nodup) : (order.foldl schema.record found).keys.Nodup := by
  induction order generalizing found with
  | nil => exact distinct
  | cons field rest ih =>
    apply ih
    rw [record]
    split
    · exact distinct
    · exact FieldMap.nodup_keys_insert distinct _ _

theorem mem_foldl_record {order : List (Field ν)} {found : FieldMap ν} {e : ν × Field ν}
    (member : e ∈ order.foldl schema.record found) :
    (e.2 ∈ order ∧ ∃ object, schema.returned? e.2 = some object ∧ object.name = e.1) ∨
      e ∈ found := by
  induction order generalizing found with
  | nil => exact .inr member
  | cons field rest ih =>
    rcases ih member with ⟨inside, returned⟩ | recorded
    · exact .inl ⟨List.mem_cons_of_mem _ inside, returned⟩
    rw [record] at recorded
    cases returned : schema.returned? field with
    | none => exact .inr (by simpa only [returned] using recorded)
    | some object =>
      simp only [returned] at recorded
      rcases FieldMap.mem_of_mem_insert recorded with rfl | old
      · exact .inl ⟨List.mem_cons_self, object, returned, rfl⟩
      · exact .inr old

/-! ### What is reachable -/

variable {start : Field ν} {map : FieldMap ν}

theorem reachable_ok {order : List (Field ν)} {after : List ν}
    (visits : Visits schema [] [start] order after) (found : schema.reachable start = .ok map) :
    (∀ field, schema.Meets start field → schema.offends field = false) ∧
      map = order.foldl schema.record [] := by
  rw [reachable_eq visits] at found
  cases first : order.find? schema.offends with
  | some field =>
    obtain ⟨failure, _, failed⟩ := foldlM_visit_error first []
    rw [failed] at found
    cases found
  | none =>
    have fine : ∀ field ∈ order, schema.offends field = false := by simpa using first
    rw [foldlM_visit_ok fine] at found
    refine ⟨fun field meets => ?_, (Except.ok.inj found).symm⟩
    exact fine field (visits.mem_iff_meets.mpr meets)

theorem mem_keys_reachable (found : schema.reachable start = .ok map) {name : ν} :
    name ∈ map.keys ↔ ∃ object, schema.Reaches start object ∧ object.name = name := by
  obtain ⟨order, after, visits⟩ := Visits.total schema [] [start]
  rw [(reachable_ok visits found).2, mem_keys_foldl_record]
  simp only [visits.mem_iff_meets, reaches_iff, FieldMap.keys, List.map_nil, List.not_mem_nil,
    or_false]
  constructor
  · rintro ⟨field, meets, object, returned, named⟩
    exact ⟨object, ⟨field, meets, returned⟩, named⟩
  · rintro ⟨object, ⟨field, meets, returned⟩, named⟩
    exact ⟨field, meets, object, returned, named⟩

theorem nodup_keys_reachable (found : schema.reachable start = .ok map) : map.keys.Nodup := by
  obtain ⟨order, after, visits⟩ := Visits.total schema [] [start]
  rw [(reachable_ok visits found).2]
  exact nodup_keys_foldl_record List.nodup_nil

theorem mem_reachable (found : schema.reachable start = .ok map) {e : ν × Field ν}
    (member : e ∈ map) :
    schema.Meets start e.2 ∧ ∃ object, schema.returned? e.2 = some object ∧ object.name = e.1 := by
  obtain ⟨order, after, visits⟩ := Visits.total schema [] [start]
  rw [(reachable_ok visits found).2] at member
  rcases mem_foldl_record member with ⟨inside, returned⟩ | none
  · exact ⟨visits.mem_iff_meets.mp inside, returned⟩
  · cases none

theorem exists_reachable (fine : ∀ field, schema.Meets start field → schema.offends field = false) :
    ∃ map, schema.reachable start = .ok map := by
  obtain ⟨order, after, visits⟩ := Visits.total schema [] [start]
  refine ⟨order.foldl schema.record [], ?_⟩
  rw [reachable_eq visits]
  exact foldlM_visit_ok (fun field member => fine field (visits.mem_iff_meets.mp member)) []

theorem reachable_error {order : List (Field ν)} {after : List ν}
    (visits : Visits schema [] [start] order after) {failure : ReachFailure} :
    schema.reachable start = .error failure ↔
      ∃ field, order.find? schema.offends = some field ∧
        schema.returnType field = .error failure := by
  rw [reachable_eq visits]
  cases first : order.find? schema.offends with
  | none =>
    have fine : ∀ field ∈ order, schema.offends field = false := by simpa using first
    simp [foldlM_visit_ok fine]
  | some field =>
    obtain ⟨other, resolved, failed⟩ := foldlM_visit_error first []
    simp [failed, resolved]

/-- The walk from a field succeeds exactly where no field that can be met offends. Then its keys are
the names of the reachable object types, each with a met field that returns it. It fails as the
first offending field does, in the order of a depth-first search. -/
theorem reachable_exact (schema : Schema ν) (start : Field ν) :
    ((∃ map, schema.reachable start = .ok map) ↔
      ∀ field, schema.Meets start field → schema.offends field = false) ∧
    (∀ map, schema.reachable start = .ok map →
      map.keys.Nodup ∧
      (∀ name, name ∈ map.keys ↔ ∃ object, schema.Reaches start object ∧ object.name = name) ∧
      ∀ e ∈ map, schema.Meets start e.2 ∧ Name.key e.2.type.innermost.name = Name.key e.1) ∧
    (∃ order after, Visits schema [] [start] order after) ∧
    ∀ order after, Visits schema [] [start] order after → ∀ failure,
      schema.reachable start = .error failure ↔
        ∃ field, order.find? schema.offends = some field ∧
          schema.returnType field = .error failure := by
  refine ⟨⟨?_, exists_reachable⟩, ?_, Visits.total schema [] [start], ?_⟩
  · rintro ⟨map, found⟩
    obtain ⟨order, after, visits⟩ := Visits.total schema [] [start]
    exact (reachable_ok visits found).1
  · intro map found
    refine ⟨nodup_keys_reachable found, fun name => mem_keys_reachable found, ?_⟩
    intro e member
    obtain ⟨meets, object, returned, named⟩ := mem_reachable found member
    exact ⟨meets, by rw [← named, key_of_object? returned]⟩
  · exact fun order after visits failure => reachable_error visits

end Schema

end GraphqlRequests
