import GraphqlRequests.Name
import GraphqlRequests.Text.Split

/-!
# Scalars

How scalars are annotated in the generated module. A configured scalar is given by the dotted path
of a type; its module is imported under an alias that starts with an underscore, so that no
attribute can hide it.
-/

namespace GraphqlRequests

/-- The annotation for a scalar, and the module that it needs to be imported. -/
structure ScalarMapping where
  typeText : String
  source : Option String := none
  deriving DecidableEq, Repr

namespace ScalarMapping

def splitPath : List Char → Option (List Char) × List Char
  | [] => (none, [])
  | c :: rest =>
    match splitPath rest with
    | (some before, name) => (some (c :: before), name)
    | (none, name) => if c = '.' then (some [], name) else (none, c :: name)

/-- The alias that a module is imported under. -/
def moduleAlias (path : String) : String :=
  String.ofList ('_' :: path.toList.map fun c => if c = '.' then '_' else c)

/-- The mapping to the type at a dotted path; a path without a module names a built-in type. -/
def ofPath (path : String) : ScalarMapping :=
  match splitPath path.toList with
  | (some (c :: rest), name) =>
    let source := String.ofList (c :: rest)
    ⟨moduleAlias source ++ "." ++ String.ofList name, some source⟩
  | (_, name) => ⟨String.ofList name, none⟩

def importOf (source : String) : String :=
  "import " ++ source ++ " as " ++ moduleAlias source

def importLine (mapping : ScalarMapping) : String :=
  (mapping.source.map importOf).getD ""

def fallback : ScalarMapping := ofPath "typing.Any"

end ScalarMapping

structure ScalarRegistry where
  mappings : List (String × ScalarMapping)
  warned : List String := []

namespace ScalarRegistry

def builtin : List (String × ScalarMapping) :=
  [("String", "str"), ("Int", "int"), ("Float", "float"), ("Boolean", "bool"), ("ID", "str")].map
    fun s => (s.1, ⟨s.2, none⟩)

def common : List (String × ScalarMapping) :=
  [("DateTime", "datetime.datetime"), ("Date", "datetime.date"), ("Time", "datetime.time"),
    ("UUID", "uuid.UUID"), ("Decimal", "decimal.Decimal"), ("JSON", "typing.Any"),
    ("JSONObject", "typing.Any")].map fun s => (s.1, .ofPath s.2)

def default : ScalarRegistry := ⟨builtin ++ common, []⟩

def overrideWarning (name : String) : String :=
  "Overriding the mapping of built-in scalar '" ++ name ++ "'"

def unknownWarning (name : String) : String :=
  "No Python type for scalar '" ++ name ++ "', using Any"

def get? (registry : ScalarRegistry) (name : String) : Option ScalarMapping :=
  registry.mappings.lookup name

def has (registry : ScalarRegistry) (name : String) : Bool :=
  (registry.get? name).isSome

def mapping (registry : ScalarRegistry) (name : String) : ScalarMapping :=
  (registry.get? name).getD .fallback

/-- The mapping to annotate a scalar with; one whose name is no text has none of its own. -/
def mappingOf {ν : Type} [Name ν] (registry : ScalarRegistry) (name : ν) : ScalarMapping :=
  ((Name.text? name).bind registry.get?).getD .fallback

def register (registry : ScalarRegistry) (name : String) (mapping : ScalarMapping) :
    ScalarRegistry :=
  { registry with mappings := (name, mapping) :: registry.mappings }

def registerWarnings (name : String) : List String :=
  if (builtin.lookup name).isSome then [overrideWarning name] else []

def ofPaths (paths : List (String × String)) : ScalarRegistry :=
  paths.foldl (fun registry s => registry.register s.1 (.ofPath s.2)) default

def pathWarnings (paths : List (String × String)) : List String :=
  paths.flatMap fun s => registerWarnings s.1

/-- Take note of a scalar that is used: an unknown one is warned of the first time. -/
def use {ν : Type} [Name ν] (registry : ScalarRegistry) (name : ν) :
    ScalarRegistry × List String :=
  let shown := Name.shown name
  if (Name.text? name).any registry.has || shown ∈ registry.warned then (registry, [])
  else ({ registry with warned := shown :: registry.warned }, [unknownWarning shown])

def useAll {ν : Type} [Name ν] (registry : ScalarRegistry) :
    List ν → ScalarRegistry × List String
  | [] => (registry, [])
  | name :: rest =>
    let (registry, first) := registry.use name
    let (registry, others) := registry.useAll rest
    (registry, first ++ others)

def sourcesFor (registry : ScalarRegistry) (names : List String) : List String :=
  names.filterMap fun name => (registry.mapping name).source

def importsFor (registry : ScalarRegistry) (names : List String) : List String :=
  Text.sorted ((registry.sourcesFor names).map ScalarMapping.importOf)

end ScalarRegistry

end GraphqlRequests
