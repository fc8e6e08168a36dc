import GraphqlRequests.Proofs.Scalar.Spelling
import GraphqlRequests.Schema

/-!
# The paths of scalars

Every scalar stands for the type at a dotted path: what stands before the last dot is the module to
import, what stands after it a name in that module. `Config.mapping_eq` says that the mappings of a
registry are those of the paths.
-/

namespace GraphqlRequests

open Text
open Source (isName)

namespace ScalarMapping

theorem splitPath_of_undotted {path : List Char} (undotted : '.' ∉ path) :
    splitPath path = (none, path) := by
  induction path with
  | nil => rfl
  | cons c rest ih =>
    obtain ⟨other, later⟩ := List.ne_and_not_mem_of_not_mem_cons undotted
    rw [splitPath, ih later]
    exact if_neg (Ne.symm other)

theorem splitPath_append (source : List Char) {name : List Char} (undotted : '.' ∉ name) :
    splitPath (source ++ '.' :: name) = (some source, name) := by
  induction source with
  | nil => simp [splitPath, splitPath_of_undotted undotted]
  | cons c rest ih => rw [List.cons_append, splitPath, ih]

theorem eq_of_splitPath (path : List Char) : path = (match splitPath path with
    | (some before, name) => before ++ '.' :: name
    | (none, name) => name) := by
  induction path with
  | nil => rfl
  | cons c rest ih =>
    rw [splitPath]
    rcases split : splitPath rest with ⟨_ | before, name⟩
    · obtain rfl : rest = name := by rwa [split] at ih
      by_cases dot : c = '.' <;> simp [dot]
    · rw [split] at ih
      simp [ih]

theorem ofPath_append {source name : String} (some : source ≠ "") (undotted : '.' ∉ name.toList) :
    ofPath (source ++ "." ++ name) = ⟨moduleAlias source ++ "." ++ name, source⟩ := by
  have split := splitPath_append source.toList undotted
  obtain ⟨c, rest, chars⟩ := List.exists_cons_of_ne_nil (String.toList_eq_nil_iff.not.mpr some)
  have joined : (source ++ "." ++ name).toList = source.toList ++ '.' :: name.toList := by simp
  rw [ofPath, joined, split, chars]
  simp only [← chars, String.ofList_toList]

theorem ofPath_of_undotted {path : String} (undotted : '.' ∉ path.toList) :
    ofPath path = ⟨path, none⟩ := by
  rw [ofPath, splitPath_of_undotted undotted]
  simp only [String.ofList_toList]

theorem exists_append_of_dot {path : String} (dot : '.' ∈ path.toList) :
    ∃ source name, path = source ++ "." ++ name ∧ '.' ∉ name.toList := by
  have whole := eq_of_splitPath path.toList
  have undotted := dot_not_mem_splitPath path.toList
  split at whole
  · next before name split =>
    rw [split] at undotted
    refine ⟨String.ofList before, String.ofList name, String.toList_injective ?_, ?_⟩
    · simpa using whole
    · simpa using undotted
  · next name split =>
    rw [split, ← whole] at undotted
    exact absurd dot undotted

theorem exists_append_of_source {path source : String}
    (imports : (ofPath path).source = some source) :
    ∃ name, path = source ++ "." ++ name ∧ '.' ∉ name.toList := by
  have whole := eq_of_splitPath path.toList
  have undotted := dot_not_mem_splitPath path.toList
  rw [ofPath] at imports
  split at imports
  · next c rest name split =>
    obtain rfl := Option.some.inj imports
    rw [split] at whole undotted
    refine ⟨String.ofList name, String.toList_injective ?_, by simpa using undotted⟩
    simpa using whole
  · cases imports

theorem isDotted_append {source name : String} (undotted : '.' ∉ name.toList) :
    isDotted (source ++ "." ++ name).toList = true ↔
      isDotted source.toList = true ∧ isName name = true := by
  have joined : (source ++ "." ++ name).toList = source.toList ++ '.' :: name.toList := by simp
  rw [isDotted, joined, splitChars_splitPath, splitPath_append _ undotted]
  simp [isDotted]

theorem ne_empty_of_isDotted {source name : String}
    (dotted : isDotted (source ++ "." ++ name).toList = true) : source ≠ "" := by
  rintro rfl
  have first : [] ∈ splitChars '.' ("" ++ "." ++ name).toList := by simp [splitChars]
  exact absurd (List.all_eq_true.mp dotted [] first) (by decide)

end ScalarMapping

def knownPaths : List (String × String) :=
  [("String", "str"), ("Int", "int"), ("Float", "float"), ("Boolean", "bool"), ("ID", "str"),
    ("DateTime", "datetime.datetime"), ("Date", "datetime.date"), ("Time", "datetime.time"),
    ("UUID", "uuid.UUID"), ("Decimal", "decimal.Decimal"), ("JSON", "typing.Any"),
    ("JSONObject", "typing.Any")]

theorem lookup_map {β γ : Type} (f : β → γ) (entries : List (String × β)) (name : String) :
    (entries.map fun e => (e.1, f e.2)).lookup name = (entries.lookup name).map f := by
  induction entries with
  | nil => rfl
  | cons e rest ih =>
    rw [List.map_cons, List.lookup_cons, List.lookup_cons, ih]
    split <;> rfl

namespace Config

/-- The path of the type that a scalar stands for: the one that is configured, one that is known, or
the path of the type of all values. -/
def scalarPath (config : Config) (name : String) : String :=
  ((config.scalars.reverse ++ knownPaths).lookup name).getD "typing.Any"

def Names (config : Config) (scalar source name : String) : Prop :=
  config.scalarPath scalar = source ++ "." ++ name ∧ '.' ∉ name.toList

instance (config : Config) (scalar source name : String) :
    Decidable (config.Names scalar source name) :=
  inferInstanceAs (Decidable (_ ∧ _))

def scalarModules (config : Config) (schema : Schema String) : Set String :=
  {source | ∃ scalar ∈ schema.ofKind .scalar, ∃ name, config.Names scalar.name source name}

theorem mappings_ofPaths (paths : List (String × String)) : (ScalarRegistry.ofPaths paths).mappings
    = (paths.reverse ++ knownPaths).map fun path => (path.1, .ofPath path.2) := by
  have layered : ∀ registry : ScalarRegistry, (paths.foldl (fun registry path =>
      registry.register path.1 (.ofPath path.2)) registry).mappings
        = (paths.reverse.map fun path => (path.1, .ofPath path.2)) ++ registry.mappings := by
    induction paths with
    | nil => exact fun registry => rfl
    | cons path rest ih =>
      intro registry
      rw [List.foldl_cons, ih, ScalarRegistry.register]
      simp
  rw [ScalarRegistry.ofPaths, layered, List.map_append]
  rfl

theorem mapping_eq (config : Config) (name : String) :
    config.registry.mapping name = .ofPath (config.scalarPath name) := by
  rw [ScalarRegistry.mapping, ScalarRegistry.get?, registry, mappings_ofPaths, lookup_map,
    scalarPath]
  cases (config.scalars.reverse ++ knownPaths).lookup name <;> rfl

theorem isDotted_scalarPath {config : Config}
    (dotted : ∀ path ∈ config.scalars, isDotted path.2.toList = true) (name : String) :
    isDotted (config.scalarPath name).toList = true := by
  have known : ∀ path ∈ knownPaths, isDotted path.2.toList = true := by decide
  rw [scalarPath]
  cases found : (config.scalars.reverse ++ knownPaths).lookup name with
  | none =>
    have fallback : isDotted "typing.Any".toList = true := by decide
    exact fallback
  | some path =>
    obtain ⟨before, after, split, -⟩ := List.lookup_eq_some_iff.mp found
    have member : (name, path) ∈ config.scalars.reverse ++ knownPaths := by simp [split]
    rcases List.mem_append.mp member with configured | listed
    · exact dotted _ (List.mem_reverse.mp configured)
    · exact known _ listed

end Config

end GraphqlRequests
