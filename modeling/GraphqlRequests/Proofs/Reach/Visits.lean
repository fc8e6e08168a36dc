import GraphqlRequests.Proofs.Schema.Lookup

/-!
# Depth-first visits

`Visits` is the order in which a depth-first search meets fields, with the object types that it has
expanded on the way. Every list of fields has one such order, and from no expanded types it meets
exactly what can be reached.
-/

namespace GraphqlRequests.Schema

variable {ν : Type} [DecidableEq ν] [Name ν] {schema : Schema ν}

/-- The object types that can be reached from a field, from object type to field to object type. -/
inductive Reaches (schema : Schema ν) (start : Field ν) : ObjectType ν → Prop where
  | start {object} (returned : schema.returned? start = some object) : Reaches schema start object
  | step {object field next} (reached : Reaches schema start object)
      (member : field ∈ object.fields) (returned : schema.returned? field = some next) :
      Reaches schema start next

/-- The fields that are met on the way: the first one, and all fields of reachable object types. -/
def Meets (schema : Schema ν) (start field : Field ν) : Prop :=
  field = start ∨ ∃ object, schema.Reaches start object ∧ field ∈ object.fields

/-- `Visits schema seen fields order after`: a depth-first search through the fields, with the
object types in `seen` expanded before, meets the fields in `order` and has then expanded those in
`after`. Each field comes before those of the object type that it returns, which follow only if that
type was not expanded before. -/
inductive Visits (schema : Schema ν) :
    List ν → List (Field ν) → List (Field ν) → List ν → Prop where
  | nil (seen) : Visits schema seen [] [] seen
  | leaf {seen field rest order after} (none : schema.returned? field = none)
      (others : Visits schema seen rest order after) :
      Visits schema seen (field :: rest) (field :: order) after
  | again {seen field rest order after object} (returned : schema.returned? field = some object)
      (old : object.name ∈ seen) (others : Visits schema seen rest order after) :
      Visits schema seen (field :: rest) (field :: order) after
  | first {seen field rest below inner order after object}
      (returned : schema.returned? field = some object) (new : object.name ∉ seen)
      (expanded : Visits schema (object.name :: seen) object.fields below inner)
      (others : Visits schema inner rest order after) :
      Visits schema seen (field :: rest) (field :: (below ++ order)) after

theorem Reaches.head {start field : Field ν} {object next : ObjectType ν}
    (returned : schema.returned? start = some object) (member : field ∈ object.fields)
    (reached : schema.Reaches field next) : schema.Reaches start next := by
  induction reached with
  | start here => exact .step (.start returned) member here
  | step _ inside here ih => exact .step ih inside here

theorem Reaches.isSome_returned? {start : Field ν} {object : ObjectType ν}
    (reached : schema.Reaches start object) : (schema.returned? start).isSome := by
  induction reached with
  | start returned => exact Option.isSome_iff_exists.mpr ⟨_, returned⟩
  | step _ _ _ ih => exact ih

namespace Visits

variable {seen after : List ν} {fields order : List (Field ν)}

theorem subset (visits : Visits schema seen fields order after) : seen ⊆ after := by
  induction visits with
  | nil => exact List.Subset.refl _
  | leaf _ _ ih => exact ih
  | again _ _ _ ih => exact ih
  | first _ _ _ _ inside beside =>
    exact fun name old => beside (inside (List.mem_cons_of_mem _ old))

theorem total (schema : Schema ν) (seen : List ν) (fields : List (Field ν)) :
    ∃ order after, Visits schema seen fields order after := by
  -- Expanding a type lowers the number of those left, and going on keeps it low.
  induction left : schema.unexpanded seen using Nat.strongRecOn
    generalizing seen fields with
  | ind left fewer =>
    subst left
    suffices search : ∀ now, schema.unexpanded now ≤ schema.unexpanded seen →
        ∃ order after, Visits schema now fields order after from search seen (Nat.le_refl _)
    induction fields with
    | nil => exact fun now _ => ⟨[], now, .nil now⟩
    | cons field rest go =>
      intro now low
      cases returned : schema.returned? field with
      | none =>
        obtain ⟨order, after, others⟩ := go now low
        exact ⟨_, _, .leaf returned others⟩
      | some object =>
        by_cases old : object.name ∈ now
        · obtain ⟨order, after, others⟩ := go now low
          exact ⟨_, _, .again returned old others⟩
        · have less : schema.unexpanded (object.name :: now) < schema.unexpanded seen := by
            obtain ⟨type, found, whole⟩ := object?_eq_some.mp returned
            rw [← (NamedType.object?_eq_some.mp whole).1] at old ⊢
            exact Nat.lt_of_lt_of_le (unexpanded_cons_lt (mem_of_type? found) old) low
          obtain ⟨below, inner, expanded⟩ := fewer _ less (object.name :: now) object.fields rfl
          have lower : schema.unexpanded inner ≤ schema.unexpanded (object.name :: now) :=
            unexpanded_le_of_subset expanded.subset
          obtain ⟨order, after, others⟩ := go inner (by omega)
          exact ⟨_, _, .first returned old expanded others⟩

theorem exists_cons {field : Field ν} {rest : List (Field ν)}
    (visits : Visits schema seen (field :: rest) order after) : ∃ below, order = field :: below := by
  cases visits <;> exact ⟨_, rfl⟩

theorem fields_subset (visits : Visits schema seen fields order after) : fields ⊆ order := by
  induction visits with
  | nil => exact List.Subset.refl _
  | leaf _ _ ih => exact List.cons_subset_cons _ ih
  | again _ _ _ ih => exact List.cons_subset_cons _ ih
  | first _ _ _ _ _ beside =>
    exact List.cons_subset_cons _ fun _ held => List.mem_append_right _ (beside held)

theorem sound (visits : Visits schema seen fields order after) :
    ∀ met ∈ order, ∃ field ∈ fields, schema.Meets field met := by
  induction visits with
  | nil => simp
  | leaf _ _ ih | again _ _ _ ih =>
    intro met member
    rcases List.mem_cons.mp member with rfl | later
    · exact ⟨_, List.mem_cons_self, .inl rfl⟩
    · obtain ⟨field, inside, meets⟩ := ih met later
      exact ⟨field, List.mem_cons_of_mem _ inside, meets⟩
  | @first _ field _ _ _ _ _ object returned _ _ _ inside beside =>
    intro met member
    rcases List.mem_cons.mp member with rfl | later
    · exact ⟨_, List.mem_cons_self, .inl rfl⟩
    rcases List.mem_append.mp later with below | other
    · obtain ⟨sub, own, meets⟩ := inside met below
      refine ⟨field, List.mem_cons_self, .inr ?_⟩
      rcases meets with rfl | ⟨next, reached, held⟩
      · exact ⟨object, .start returned, own⟩
      · exact ⟨next, .head returned own reached, held⟩
    · obtain ⟨other, inside, meets⟩ := beside met other
      exact ⟨other, List.mem_cons_of_mem _ inside, meets⟩

theorem expanded_of_mem (visits : Visits schema seen fields order after) :
    ∀ met ∈ order, ∀ object, schema.returned? met = some object → object.name ∈ after := by
  induction visits with
  | nil => simp
  | leaf none _ ih =>
    intro met member object returned
    rcases List.mem_cons.mp member with rfl | later
    · rw [none] at returned
      cases returned
    · exact ih met later object returned
  | again here old others ih =>
    intro met member object returned
    rcases List.mem_cons.mp member with rfl | later
    · obtain rfl := Option.some.inj (here.symm.trans returned)
      exact others.subset old
    · exact ih met later object returned
  | first here _ expanded others inside beside =>
    intro met member object returned
    rcases List.mem_cons.mp member with rfl | later
    · obtain rfl := Option.some.inj (here.symm.trans returned)
      exact others.subset (expanded.subset List.mem_cons_self)
    rcases List.mem_append.mp later with below | other
    · exact others.subset (inside met below object returned)
    · exact beside met other object returned

/-- Where a type was expanded, a field that returns it and all its own fields were met. -/
theorem met_of_expanded (visits : Visits schema seen fields order after) :
    ∀ name ∈ after, name ∈ seen ∨ ∃ met ∈ order, ∃ object,
      schema.returned? met = some object ∧ object.name = name ∧ object.fields ⊆ order := by
  induction visits with
  | nil => exact fun name old => .inl old
  | leaf _ _ ih | again _ _ _ ih =>
    intro name member
    refine (ih name member).imp_right ?_
    rintro ⟨met, inside, object, returned, named, own⟩
    exact ⟨met, List.mem_cons_of_mem _ inside, object, returned, named,
      fun _ held => List.mem_cons_of_mem _ (own held)⟩
  | @first _ field _ below _ order _ object returned _ expanded _ inside beside =>
    intro name member
    rcases beside name member with old | ⟨met, other, found, here, named, own⟩
    · rcases inside name old with known | ⟨met, deep, found, here, named, own⟩
      · rcases List.mem_cons.mp known with rfl | before
        · refine .inr ⟨field, List.mem_cons_self, object, returned, rfl, ?_⟩
          exact fun sub held =>
            List.mem_cons_of_mem _ (List.mem_append_left _ (expanded.fields_subset held))
        · exact .inl before
      · refine .inr ⟨met, List.mem_cons_of_mem _ (List.mem_append_left _ deep), found, here, named,
          ?_⟩
        exact fun sub held => List.mem_cons_of_mem _ (List.mem_append_left _ (own held))
    · refine .inr ⟨met, List.mem_cons_of_mem _ (List.mem_append_right _ other), found, here, named,
        ?_⟩
      exact fun sub held => List.mem_cons_of_mem _ (List.mem_append_right _ (own held))

theorem closed (visits : Visits schema [] fields order after) {met : Field ν}
    {object : ObjectType ν} (member : met ∈ order) (returned : schema.returned? met = some object) :
    object.fields ⊆ order := by
  rcases visits.met_of_expanded _ (visits.expanded_of_mem met member object returned) with
    old | ⟨other, _, found, here, named, own⟩
  · simp at old
  · rwa [object?_unique here returned named] at own

/-- A search from one field, with no types expanded, meets exactly what the field reaches. -/
theorem mem_iff_meets {start met : Field ν} (visits : Visits schema [] [start] order after) :
    met ∈ order ↔ schema.Meets start met := by
  constructor
  · intro member
    obtain ⟨field, inside, meets⟩ := visits.sound met member
    rwa [List.mem_singleton.mp inside] at meets
  · have here : start ∈ order := visits.fields_subset (List.mem_singleton_self _)
    have reached : ∀ {object}, schema.Reaches start object → object.fields ⊆ order := by
      intro object reached
      induction reached with
      | start returned => exact visits.closed here returned
      | step _ member returned ih => exact visits.closed (ih member) returned
    rintro (rfl | ⟨object, reaches, member⟩)
    · exact here
    · exact reached reaches member

end Visits

theorem reaches_iff {start : Field ν} {object : ObjectType ν} :
    schema.Reaches start object ↔
      ∃ field, schema.Meets start field ∧ schema.returned? field = some object := by
  constructor
  · rintro (returned | ⟨reached, member, returned⟩)
    · exact ⟨start, .inl rfl, returned⟩
    · exact ⟨_, .inr ⟨_, reached, member⟩, returned⟩
  · rintro ⟨field, rfl | ⟨before, reached, member⟩, returned⟩
    · exact .start returned
    · exact .step reached member returned

end GraphqlRequests.Schema
