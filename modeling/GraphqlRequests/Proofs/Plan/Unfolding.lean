import GraphqlRequests.Proofs.Plan.Closed

/-!
# What a document selects

With fragments put in the place of their spreads, to any depth, a document selects the tree of
selected fields of the schema.
-/

namespace GraphqlRequests

open Document (Body Definition Item graft)

/-! ### One level -/

namespace Document.Body

variable {body : Body} {depth : Nat} {name key : String} {inner rest : List Item}
variable {below others : List Document.Tree}

theorem unfold_nil : body.unfold depth [] = some [] := by
  cases depth <;> simp [unfold, graft]

theorem unfold_leaf (next : body.unfold depth rest = some others) :
    body.unfold depth (.leaf name :: rest) = some (.leaf name :: others) := by
  cases depth <;> simp_all [unfold, graft]

theorem unfold_nested (here : body.unfold depth inner = some below)
    (next : body.unfold depth rest = some others) :
    body.unfold depth (.nested name inner :: rest) = some (.nested name below :: others) := by
  cases depth <;> simp_all [unfold, graft]

theorem unfold_spread {d : Definition} (defined : body.definition? key = some d) :
    body.unfold (depth + 1) [.spread key] = body.unfold depth d.items := by
  simp [unfold, graft, defined]

end Document.Body

/-! ### All levels -/

variable {ν : Type} [DecidableEq ν] [Name ν]
variable {config : Config} {schema : Schema ν} {operation : Operation ν} {field : Field ν}
variable {root object : ObjectType ν} {plan : Plan ν} {objects : List (ObjectType ν)}

namespace Config

theorem definition?_eq (proper : schema.Proper) (returned : schema.returned? field = some root)
    (all : ∀ object, object ∈ objects ↔ config.SelectReaches schema root object)
    (reached : config.SelectReaches schema root object) :
    (config.body root objects).definition? (Fragment.key (Name.shown object.name))
      = some (config.definition object) := by
  rw [Document.Body.definition?, Config.body]
  cases found : (objects.map config.definition).find? fun d =>
      d.key = Fragment.key (Name.shown object.name) with
  | none =>
    have differs := List.find?_eq_none.mp found (config.definition object)
      (List.mem_map_of_mem ((all object).mpr reached))
    simp [definition] at differs
  | some d =>
    obtain ⟨other, listed, rfl⟩ := List.mem_map.mp (List.mem_of_find?_eq_some found)
    have same : (config.definition other).key = Fragment.key (Name.shown object.name) := by
      simpa using List.find?_some found
    have there := ((all other).mp listed).reaches returned
    rw [there.eq_of_key proper (reached.reaches returned) same]

namespace Planned

variable (planned : config.Planned schema operation field root plan) (proper : schema.Proper)
variable (returned : schema.returned? field = some root)
include planned proper returned

theorem unfold_items {body : Body}
    {depth : Nat} (reached : config.SelectReaches schema root object)
    (below : ∀ next, config.SelectReaches schema root next →
      body.unfold depth [.spread (Fragment.key (Name.shown next.name))]
        = some (config.trees schema depth next)) :
    body.unfold depth (config.definition object).items
      = some (config.trees schema (depth + 1) object) := by
  have there := reached.reaches returned
  -- The fields are taken one by one, so what is known of each is stated before.
  have steps : ∀ inner ∈ config.selectedFields object, ∀ next,
      schema.returned? inner = some next → config.SelectReaches schema root next :=
    fun _ member _ returns => .step reached member returns
  have inside : ∀ inner ∈ config.selectedFields object, inner ∈ object.fields :=
    fun _ => mem_of_mem_selectedFields
  rw [definition, trees]
  generalize config.selectedFields object = fields at steps inside
  induction fields with
  | nil => exact Document.Body.unfold_nil
  | cons inner rest ih =>
    obtain ⟨here, later⟩ := List.forall_mem_cons.mp inside
    obtain ⟨step, others⟩ := List.forall_mem_cons.mp steps
    have next := ih others later
    rw [List.map_cons, List.map_cons, item_eq proper (there.declared proper) here
      (there.fine planned.reachable inner here)]
    cases returns : schema.returned? inner with
    | none => exact Document.Body.unfold_leaf next
    | some type => exact Document.Body.unfold_nested (below type (step type returns)) next

theorem unfold_spread
    (all : ∀ object, object ∈ objects ↔ config.SelectReaches schema root object) (depth : Nat)
    (reached : config.SelectReaches schema root object) :
    (config.body root objects).unfold depth [.spread (Fragment.key (Name.shown object.name))]
      = some (config.trees schema depth object) := by
  induction depth generalizing object with
  | zero => simp [Document.Body.unfold, graft, trees]
  | succ depth ih =>
    rw [Document.Body.unfold_spread (definition?_eq proper returned all reached)]
    exact planned.unfold_items proper returned reached fun next there => ih there

end Planned

end Config

/-- With fragments in the place of their spreads, to any depth, a planned document selects the tree
of selected fields below the returned type. No spread on the way lacks its fragment. -/
theorem Config.planField_unfolds (proper : schema.Proper)
    (returned : schema.returned? field = some root)
    (planned : config.planField schema operation field = .ok plan) :
    ∃ body, plan.Reads body ∧
      ∀ depth, body.unfold depth body.root = some (config.trees schema depth root) := by
  have planned := (Config.planField_ok returned).mp planned
  obtain ⟨objects, fragments, all, -, -⟩ := planned.fragments_eq proper returned
  refine ⟨config.body root objects, planned.reads proper returned fragments all, fun depth => ?_⟩
  exact planned.unfold_spread proper returned all depth .root

open Fleet in
theorem Config.planField_unfolds_of_cycle : fleet.Proper ∧
    fleet.returned? heroField = some hero ∧
    ∃ plan, pilots.planField fleet query heroField = .ok plan ∧ ∃ body, plan.Reads body ∧
      (∀ depth, body.unfold depth body.root = some (pilots.trees fleet depth hero)) ∧
      body.unfold 3 body.root = some [.leaf "name",
        .nested "ships" [.nested "pilot" [.leaf "name", .nested "ships" []]]] := by
  obtain ⟨plan, planned, -⟩ := exists_plan
  obtain ⟨body, reads, unfolds⟩ :=
    Config.planField_unfolds fleet_proper returned_heroField planned
  refine ⟨fleet_proper, returned_heroField, plan, planned, body, reads, unfolds, ?_⟩
  rw [unfolds]
  rfl

end GraphqlRequests
