import GraphqlRequests.Proofs.Plan.Table
import GraphqlRequests.Proofs.Selection.Outcome

/-!
# When planning a field fails

A field is walked from, its table is made, and the closure taken. The walk and the table have
failures of their own. The closure has none, since the table holds what the field returns.
-/

namespace GraphqlRequests

variable {ν : Type} [DecidableEq ν] [Name ν]
variable {config : Config} {schema : Schema ν} {operation : Operation ν} {field : Field ν}

/-! ### The walk decides first -/

namespace Schema

theorem reachable_of_returnType_error {cause : ReachFailure}
    (failed : schema.returnType field = .error cause) : schema.reachable field = .error cause := by
  obtain ⟨order, after, visits⟩ := Visits.total schema [] [field]
  have offends : schema.offends field = true := by
    by_contra fine
    obtain ⟨type, resolved⟩ := offends_eq_false.mp (Bool.eq_false_of_not_eq_true fine)
    cases failed.symm.trans resolved
  refine (reachable_error visits).mpr ⟨field, ?_, failed⟩
  obtain ⟨rest, rfl⟩ := visits.exists_cons
  exact List.find?_cons_of_pos offends

theorem reachable_of_leaf {type : NamedType ν} (resolved : schema.returnType field = .ok type)
    (leaf : type.object? = none) : schema.reachable field = .ok [] := by
  have none := (returned?_of_returnType resolved).trans leaf
  have visits : Visits schema [] [field] [field] [] := .leaf none (.nil [])
  rw [reachable_eq visits, List.foldlM_cons, visit, resolved, record, none]
  rfl

end Schema

namespace Config

/-- A field fails as its walk does. Where the walk succeeds and finds object types, a table is made
of their fragments, and its closure taken from the one of the returned type. -/
theorem planField_eq : config.planField schema operation field =
    (schema.reachable field).mapError .reach >>= fun reachable =>
      match schema.returned? field with
      | none => .ok { operation, field }
      | some root => do
        let table ← config.fragmentTable schema reachable
        let fragments ← (Fragment.closure table [Fragment.key (Name.shown root.name)]).mapError
          .missingFragment
        return { operation, field, reachable, table, fragments
                 rootKeys := [Fragment.key (Name.shown root.name)] } := by
  rw [planField]
  cases resolved : schema.returnType field with
  | error cause =>
    rw [Schema.reachable_of_returnType_error resolved]
    rfl
  | ok type =>
    rw [Schema.returned?_of_returnType resolved]
    cases whole : type.object? with
    | none =>
      rw [Schema.reachable_of_leaf resolved whole]
      simp only [Except.mapError, bind, Except.bind, whole]
      rfl
    | some root =>
      simp only [Except.mapError, bind, Except.bind, whole]

theorem fine_of_planField_ok {plan : Plan ν}
    (planned : config.planField schema operation field = .ok plan) :
    ∀ met, schema.Meets field met → schema.offends met = false := by
  rw [planField_eq] at planned
  obtain ⟨map, walked, -⟩ := bind_ok planned
  obtain ⟨order, after, visits⟩ := Schema.Visits.total schema [] [field]
  exact (Schema.reachable_ok visits (mapError_ok walked)).1

theorem planField_leaf {plan : Plan ν} (none : schema.returned? field = none)
    (planned : config.planField schema operation field = .ok plan) :
    plan = { operation, field } := by
  rw [planField_eq, none] at planned
  obtain ⟨map, -, planned⟩ := bind_ok planned
  exact (Except.ok.inj planned).symm

theorem reached_of_planField_ok {plan : Plan ν}
    (planned : config.planField schema operation field = .ok plan) : plan.field = field ∧
      ∀ name, name ∈ plan.reachable.keys ↔
        ∃ object, schema.Reaches field object ∧ object.name = name := by
  cases returned : schema.returned? field with
  | some root =>
    have parts := (planField_ok returned).mp planned
    exact ⟨parts.field_eq, fun name => Schema.mem_keys_reachable parts.reachable⟩
  | none =>
    obtain rfl := planField_leaf returned planned
    refine ⟨rfl, fun name => ⟨fun listed => absurd listed List.not_mem_nil, ?_⟩⟩
    rintro ⟨object, reached, -⟩
    have some := reached.isSome_returned?
    rw [returned] at some
    cases some

theorem fragmentTable_error {map : FieldMap ν} {e : PlanFailure}
    (failed : config.fragmentTable schema map = .error e) :
    ∃ type ∈ sortedTypes map, config.fragment schema type = .error e := by
  rcases bind_error failed with steps | ⟨entries, -, failed⟩
  · exact mapM_error steps
  · cases failed

theorem exists_closure {map : FieldMap ν} {table : Fragment.Table} {root : ObjectType ν}
    (walked : schema.reachable field = .ok map) (made : config.fragmentTable schema map = .ok table)
    (returned : schema.returned? field = some root)
    (named : Name.text root.name = Name.shown root.name) :
    ∃ fragments, Fragment.closure table [Fragment.key (Name.shown root.name)] = .ok fragments := by
  obtain ⟨-, keys, distinct⟩ := fragmentTable_ok made
  have listed : Name.shown root.name ∈ sortedTypes map :=
    (mem_sortedTypes_iff walked).mpr ⟨root, .start returned, named⟩
  have known : ∀ key ∈ [Fragment.key (Name.shown root.name)], key ∈ table.keys := by
    intro key member
    rw [List.mem_singleton.mp member, keys]
    exact List.mem_map_of_mem listed
  obtain ⟨fragments, _, collected, _⟩ := Fragment.closure_ok distinct known
  exact ⟨fragments, collected⟩

theorem planField_error {e : PlanFailure}
    (named : ∀ root, schema.returned? field = some root →
      Name.text root.name = Name.shown root.name)
    (failed : config.planField schema operation field = .error e) :
    (∃ cause, schema.reachable field = .error cause ∧ e = .reach cause) ∨
    ∃ map, schema.reachable field = .ok map ∧ config.fragmentTable schema map = .error e := by
  rw [planField_eq] at failed
  rcases bind_error failed with walk | ⟨map, walked, failed⟩
  · obtain ⟨cause, walk, same⟩ := mapError_error walk
    exact .inl ⟨cause, walk, same.symm⟩
  have walked := mapError_ok walked
  cases returned : schema.returned? field with
  | none =>
    rw [returned] at failed
    cases failed
  | some root =>
    rw [returned] at failed
    rcases bind_error failed with table | ⟨table, made, failed⟩
    · exact .inr ⟨map, walked, table⟩
    · obtain ⟨fragments, closed⟩ := exists_closure walked made returned (named root returned)
      rw [closed] at failed
      cases failed

end Config

/-! ### Text names -/

section Textual

variable {schema : Schema String} {operation : Operation String} {start field : Field String}

theorem Schema.returnType_error {cause : ReachFailure} :
    schema.returnType field = .error cause ↔
      (schema.type? field.type.innermost.name = none ∧
        cause = .missingType field.type.innermost.name field.name) ∨
      ∃ type, schema.type? field.type.innermost.name = some type ∧ type.kind.isAbstract = true ∧
        cause = .abstractType ⟨type.kind, field.type.innermost.name, field.name⟩ := by
  unfold returnType
  simp only [Name.isKey_string, Bool.not_true, Bool.false_eq_true, if_false, Name.shown_string]
  cases schema.type? field.type.innermost.name with
  | none =>
    simp only [Except.error.injEq, true_and, reduceCtorEq, false_and, exists_false, or_false]
    exact eq_comm
  | some type =>
    by_cases abstract : type.kind.isAbstract = true
    · simp only [abstract, if_true, Except.error.injEq, reduceCtorEq, false_and, false_or,
        Option.some.injEq, exists_eq_left', true_and]
      exact eq_comm
    · simp [abstract]

namespace Config

/-- What hinders a field from being planned, with the failure that tells it. A field that is met on
the way returns a type that is missing or stands for several, or the configuration requests unknown
fields of an object type that is reached. Or there a field is selected that is written to refer to
an interface or a union; what a name selects is rendered as the first field of this name. -/
inductive Hinders (config : Config) (schema : Schema String) (start : Field String) :
    PlanFailure → Prop where
  | missing {field : Field String} (meets : schema.Meets start field)
      (lacks : schema.type? field.type.innermost.name = none) :
      Hinders config schema start
        (.reach (.missingType field.type.innermost.name field.name))
  | abstract {field : Field String} {type} (meets : schema.Meets start field)
      (found : schema.type? field.type.innermost.name = some type)
      (abstract : type.kind.isAbstract = true) :
      Hinders config schema start
        (.reach (.abstractType ⟨type.kind, field.type.innermost.name, field.name⟩))
  | unknown {object} (reached : schema.Reaches start object)
      (unknown : config.unknownFields object ≠ []) :
      Hinders config schema start
        (.unknownFields ⟨object.name, config.unknownFields object⟩)
  | refers {object name} {field : Field String} (reached : schema.Reaches start object)
      (selected : name ∈ (config.selectedFields object).map (·.name))
      (first : object.field? name = some field)
      (abstract : field.type.innermost.kind.isAbstract = true) :
      Hinders config schema start (.reach
        (.abstractType ⟨field.type.innermost.kind, field.type.innermost.name, field.name⟩))

theorem hinders_of_planField_error {e : PlanFailure}
    (failed : config.planField schema operation start = .error e) :
    config.Hinders schema start e := by
  rcases planField_error (fun _ _ => rfl) failed with ⟨cause, walk, rfl⟩ | ⟨map, walked, table⟩
  · obtain ⟨order, after, visits⟩ := Schema.Visits.total schema [] [start]
    obtain ⟨field, first, unresolved⟩ := (Schema.reachable_error visits).mp walk
    have meets := visits.mem_iff_meets.mp (List.mem_of_find?_eq_some first)
    rcases Schema.returnType_error.mp unresolved with ⟨lacks, rfl⟩ | ⟨type, found, abstract, rfl⟩
    · exact .missing meets lacks
    · exact .abstract meets found abstract
  -- The walk went well, so it is the fragment for a reached type that cannot be written.
  obtain ⟨type, listed, failed⟩ := fragmentTable_error table
  obtain ⟨object, reached, rfl⟩ := (mem_sortedTypes_iff walked).mp listed
  have found : schema.object? (Name.ofText (Name.text object.name)) = some object := reached.found
  simp only [fragment, found] at failed
  rcases bind_error failed with selection | ⟨selection, made, failed⟩
  · rw [selection_eq fun _ _ => Name.isKey_string _] at selection
    by_cases known : config.unknownFields object = []
    · rw [if_pos known] at selection
      cases selection
    · rw [if_neg known] at selection
      obtain rfl := Except.error.inj selection
      exact .unknown reached known
  rcases bind_error failed with rendered | ⟨body, -, failed⟩
  · obtain ⟨cause, unwritten, same⟩ := mapError_error rendered
    obtain ⟨name, selected, field, first, refused⟩ := fragment_error made unwritten
    obtain ⟨abstract, rfl⟩ := renderField_error.mp refused
    exact same ▸ .refers reached selected first abstract
  · cases failed

theorem exists_planField_ok_iff : (∃ plan, config.planField schema operation start = .ok plan) ↔
    ∀ e, ¬config.Hinders schema start e := by
  constructor
  · rintro ⟨plan, planned⟩ e hinders
    have fine := fine_of_planField_ok planned
    have made : ∀ object, schema.Reaches start object → ∃ selection body,
        config.selection object = .ok selection ∧ selection.fragment = .ok body := by
      intro object reached
      obtain ⟨root, returned⟩ := Option.isSome_iff_exists.mp reached.isSome_returned?
      exact ((planField_ok returned).mp planned).exists_fragment reached rfl
    -- Whatever hinders a plan contradicts a step that has been taken.
    cases hinders with
    | @missing field meets lacks =>
      obtain ⟨type, resolved⟩ := Schema.offends_eq_false.mp (fine field meets)
      cases resolved.symm.trans (Schema.returnType_error.mpr (.inl ⟨lacks, rfl⟩))
    | @abstract field type meets found abstract =>
      obtain ⟨other, resolved⟩ := Schema.offends_eq_false.mp (fine field meets)
      cases resolved.symm.trans
        (Schema.returnType_error.mpr (.inr ⟨type, found, abstract, rfl⟩))
    | unknown reached unknown =>
      obtain ⟨selection, -, selected, -⟩ := made _ reached
      rw [selection_eq fun _ _ => Name.isKey_string _, if_neg unknown] at selected
      cases selected
    | @refers object name field reached selected first abstract =>
      obtain ⟨selection, body, selection_eq, rendered⟩ := made _ reached
      obtain rfl := selection_ok selection_eq
      obtain ⟨entries, render, -⟩ := bind_ok rendered
      obtain ⟨entry, done⟩ := exists_ok_of_mapM render name selected
      simp only [first] at done
      cases done.symm.trans (renderField_error.mpr ⟨abstract, rfl⟩)
  · intro free
    cases outcome : config.planField schema operation start with
    | ok plan => exact ⟨plan, rfl⟩
    | error e => exact absurd (hinders_of_planField_error outcome) (free e)

end Config

end Textual

end GraphqlRequests
