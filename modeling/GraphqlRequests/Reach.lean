import GraphqlRequests.Selection

/-!
# Reachable types

The object types that a selection on a field can reach, each with a field that returns it. `walk`
goes depth-first through the fields, in order of declaration, and expands each object type once. What
is found below a field is put into a map of its own first, then into the map around it.
-/

namespace GraphqlRequests

inductive ReachFailure where
  | missingType (type field : String)
  | abstractType (field : AbstractField)
  | unusableName
  deriving DecidableEq, Repr

def ReachFailure.message? : ReachFailure → Option String
  | .missingType type field =>
    some ("No type named '" ++ type ++ "' found for field '" ++ field ++ "'")
  | .abstractType field => some field.message
  | .unusableName => none

/-- Fields by the name of the object type they return, in order of discovery. -/
abbrev FieldMap (ν : Type) := List (ν × Field ν)

variable {ν : Type} [DecidableEq ν]

namespace FieldMap

def insert (map : FieldMap ν) (type : ν) (field : Field ν) : FieldMap ν :=
  match map with
  | [] => [(type, field)]
  | (t, f) :: rest => if t = type then (t, field) :: rest else (t, f) :: insert rest type field

theorem lookup_insert (map : FieldMap ν) (type name : ν) (field : Field ν) :
    (map.insert type field).lookup name = if name = type then some field else map.lookup name := by
  induction map with
  | nil => simp only [insert, List.lookup_cons]; grind
  | cons e rest ih =>
    obtain ⟨t, f⟩ := e
    by_cases h : t = type <;> simp only [insert, h, if_true, if_false, List.lookup_cons] <;> grind

def update (map other : FieldMap ν) : FieldMap ν :=
  other.foldl (fun map e => map.insert e.1 e.2) map

end FieldMap

namespace Schema

variable [Name ν]

/-- The type that a field returns, without its wrappers; interfaces and unions are refused. -/
def returnType (schema : Schema ν) (field : Field ν) : Except ReachFailure (NamedType ν) :=
  let name := field.type.innermost.name
  if !Name.isKey name then .error .unusableName
  else match schema.type? name with
    | none => .error (.missingType (Name.shown name) (Name.shown field.name))
    | some type =>
      if type.kind.isAbstract then
        .error (.abstractType ⟨type.kind, Name.shown name, Name.shown field.name⟩)
      else .ok type

omit [Name ν] in
def unexpanded (schema : Schema ν) (expanded : List ν) : Nat :=
  schema.types.countP fun t => t.name ∉ expanded

omit [Name ν] in
theorem unexpanded_cons_lt {schema : Schema ν} {type : NamedType ν}
    {expanded : List ν} (hmem : type ∈ schema.types) (hnew : type.name ∉ expanded) :
    schema.unexpanded (type.name :: expanded) < schema.unexpanded expanded := by
  have fresh : type ∈ schema.types.filter fun t => t.name ∉ expanded :=
    List.mem_filter.mpr ⟨hmem, by simpa using hnew⟩
  have fewer : schema.unexpanded (type.name :: expanded)
      = (schema.types.filter fun t => t.name ∉ expanded).countP fun t => t.name ≠ type.name := by
    rw [List.countP_filter, unexpanded]
    simp [not_or]
  rw [fewer, unexpanded, List.countP_eq_length_filter, List.countP_eq_length_filter]
  exact List.length_filter_lt_length_iff_exists.mpr ⟨type, fresh, by simp⟩

omit [Name ν] in
theorem unexpanded_le_of_subset {schema : Schema ν} {expanded after : List ν}
    (subset : expanded ⊆ after) : schema.unexpanded after ≤ schema.unexpanded expanded :=
  List.countP_mono_left fun type _ fresh => by
    simp only [decide_eq_true_eq] at fresh ⊢
    exact fun old => fresh (subset old)

theorem mem_of_returnType {schema : Schema ν} {field : Field ν}
    {type : NamedType ν} (h : schema.returnType field = .ok type) : type ∈ schema.types := by
  simp only [returnType] at h
  split at h
  · cases h
  · split at h
    · cases h
    · next found =>
      split at h
      · cases h
      · cases h
        exact List.mem_of_find?_eq_some found

/-- What a walk has found, and the object types that are expanded after it. Those that were before
still are. -/
structure Walked (before : List ν) where
  found : FieldMap ν
  expanded : List ν
  kept : before ⊆ expanded

/-- Walk through fields, one after the other, and put what each of them finds into the map. An object
type that is met for the first time is expanded: its fields are walked through with a map of their
own, which starts with the field that returns it. -/
def walk (schema : Schema ν) (expanded : List ν) (found : FieldMap ν) :
    List (Field ν) → Except ReachFailure (Walked expanded)
  | [] => .ok ⟨found, expanded, List.Subset.refl _⟩
  | field :: rest =>
    match _resolved : schema.returnType field with
    | .error e => .error e
    | .ok type =>
      match type.object? with
      | none => schema.walk expanded found rest
      | some object =>
        let own : FieldMap ν := [(type.name, field)]
        if _new : type.name ∈ expanded then schema.walk expanded (found.update own) rest
        else
          match schema.walk (type.name :: expanded) own object.fields with
          | .error e => .error e
          | .ok below =>
            match schema.walk below.expanded (found.update below.found) rest with
            | .error e => .error e
            | .ok after => .ok ⟨after.found, after.expanded,
                fun _ old => after.kept (below.kept (List.mem_cons_of_mem _ old))⟩
termination_by rest => (schema.unexpanded expanded, rest.length)
decreasing_by
  · apply Prod.Lex.right; simp
  · apply Prod.Lex.right; simp
  · apply Prod.Lex.left
    exact unexpanded_cons_lt (mem_of_returnType _resolved) _new
  · apply Prod.Lex.left
    exact Nat.lt_of_le_of_lt (unexpanded_le_of_subset below.kept)
      (unexpanded_cons_lt (mem_of_returnType _resolved) _new)

/-- The object types reachable from a field, each with the field found last that returns it. -/
def reachable (schema : Schema ν) (field : Field ν) : Except ReachFailure (FieldMap ν) :=
  (schema.walk [] [] [field]).map (·.found)

end Schema

end GraphqlRequests
