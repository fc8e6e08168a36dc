import GraphqlRequests.Proofs.RequestModule.Closed
import GraphqlRequests.Proofs.Scalar.Paths
import GraphqlRequests.Proofs.Text.Lines
import GraphqlRequests.Proofs.Text.Split

/-!
# What the annotations of scalars denote

The import lines of a module bind aliases, and the annotation for a scalar looks its alias up. An
alias is the path of a module with underscores for dots, so two modules may share one: the import
that stands last then binds it for both.
-/

namespace GraphqlRequests

/-! ### Import lines -/

namespace Source

/-- What a name stands for: a module or an attribute of one. -/
inductive Target where
  | module (path : String)
  | attribute (path name : String)
  deriving DecidableEq, Repr

/-- Names and what they stand for; the first of several bindings of a name counts. -/
abbrev Bindings := List (String × Target)

def parts (sep : Char) (text : String) : List String :=
  (Text.splitChars sep text.toList).map String.ofList

def bindingOf? (line : String) : Option (String × Target) :=
  match parts ' ' line with
  | ["import", path, "as", name] => some (name, .module path)
  | ["from", path, "import", name] => some (name, .attribute path name)
  | _ => none

namespace Bindings

/-- Run a line: what it binds hides an earlier binding of the name. -/
def run (bound : Bindings) (line : String) : Bindings :=
  match bindingOf? line with
  | some binding => binding :: bound
  | none => bound

def runAll (bound : Bindings) (lines : List String) : Bindings :=
  lines.foldl run bound

/-- What a name with a dot denotes: an attribute of the module that stands before the dot. -/
def denoted? (bound : Bindings) (text : String) : Option Target :=
  match parts '.' text with
  | [front, name] =>
    match bound.lookup front with
    | some (.module path) => some (.attribute path name)
    | _ => none
  | _ => none

theorem lookup_runAll {bound : Bindings} {lines : List String} {name : String}
    (other : ∀ binding ∈ lines.filterMap bindingOf?, binding.1 ≠ name) :
    (bound.runAll lines).lookup name = bound.lookup name := by
  induction lines generalizing bound with
  | nil => rfl
  | cons line rest ih =>
    rw [runAll, List.foldl_cons, ← runAll, run]
    cases binds : bindingOf? line with
    | none =>
      rw [List.filterMap_cons_none binds] at other
      exact ih other
    | some binding =>
      rw [List.filterMap_cons_some binds] at other
      obtain ⟨here, later⟩ := List.forall_mem_cons.mp other
      rw [ih later, List.lookup_cons, beq_false_of_ne here.symm]

theorem lookup_runAll_of_last {bound : Bindings} {before after : List String} {line name : String}
    {target : Target} (binds : bindingOf? line = some (name, target))
    (other : ∀ binding ∈ after.filterMap bindingOf?, binding.1 ≠ name) :
    (bound.runAll (before ++ line :: after)).lookup name = some target := by
  have last : bound.runAll (before ++ line :: after)
      = ((bound.runAll before).run line).runAll after := by
    rw [runAll, List.foldl_append, List.foldl_cons]
    rfl
  rw [last, lookup_runAll other, run, binds]
  exact List.lookup_cons_self

end Bindings

end Source

open Source Text

/-! ### Aliases -/

namespace ScalarMapping

/-- No other module that shares the alias of a path has its import line further down. -/
def Latest (sources : Set String) (path : String) : Prop :=
  ∀ other ∈ sources, moduleAlias other = moduleAlias path → importOf other ≤ importOf path

variable {path other : String} {sources : List String}

theorem blank_notMem_of_isDotted (legal : isDotted path.toList = true) : ' ' ∉ path.toList :=
  fun member => absurd (continuesName_of_isDotted legal _ member (by decide)) (by decide)

theorem blank_notMem_moduleAlias (legal : isDotted path.toList = true) :
    ' ' ∉ (moduleAlias path).toList :=
  notMem_of_isWordText (isName_iff.mp (isName_moduleAlias legal)).1 rfl

theorem bindingOf_importOf (legal : isDotted path.toList = true) :
    bindingOf? (importOf path) = some (moduleAlias path, .module path) := by
  have joined : importOf path = Text.join " " ["import", path, "as", moduleAlias path] := by
    rw [← String.toList_inj]
    simp [importOf, Text.join]
  have plain : ∀ word ∈ ["import", path, "as", moduleAlias path], ' ' ∉ word.toList := by
    simp [blank_notMem_of_isDotted legal, blank_notMem_moduleAlias legal]
  rw [bindingOf?, parts, joined, Text.splitChars_join rfl plain (List.cons_ne_nil _ _)]
  rfl

theorem map_of_undotted {chars : List Char} (undotted : '.' ∉ chars) :
    (chars.map fun c => if c = '.' then '_' else c) = chars := by
  have same : ∀ c ∈ chars, (if c = '.' then '_' else c) = id c := by
    intro c member
    exact if_neg (ne_of_mem_of_not_mem member undotted)
  rw [List.map_congr_left same, List.map_id]

theorem eq_of_moduleAlias_eq (plain : '_' ∉ path.toList) (undotted : '.' ∉ path.toList)
    (same : moduleAlias other = moduleAlias path) : other = path := by
  rw [moduleAlias, moduleAlias, String.ofList_inj, List.cons.injEq, map_of_undotted undotted]
    at same
  have also : '.' ∉ other.toList := by
    intro member
    refine plain (same.2 ▸ ?_)
    exact List.mem_map.mpr ⟨'.', member, rfl⟩
  rw [map_of_undotted also] at same
  exact String.toList_injective same.2

theorem Latest.cons (latest : Latest {source | source ∈ sources} path) (plain : '_' ∉ other.toList)
    (undotted : '.' ∉ other.toList) :
    Latest {source | source ∈ other :: sources} path := by
  refine List.forall_mem_cons.mpr ⟨fun same => ?_, latest⟩
  rw [eq_of_moduleAlias_eq plain undotted same.symm]

theorem exists_latest (member : path ∈ sources) :
    ∃ last ∈ sources, moduleAlias last = moduleAlias path ∧
      Latest {source | source ∈ sources} last := by
  let sharing := (sources.filter fun source => moduleAlias source = moduleAlias path).toFinset
  have some : sharing.Nonempty := ⟨path, by simp [sharing, member]⟩
  obtain ⟨last, listed, greatest⟩ := sharing.exists_max_image importOf some
  obtain ⟨inside, shared⟩ : last ∈ sources ∧ moduleAlias last = moduleAlias path := by
    simpa [sharing] using listed
  refine ⟨last, inside, shared, fun other (own : other ∈ sources) same => greatest other ?_⟩
  simp [sharing, own, same, shared]

theorem lookup_sorted_imports (bound : Bindings)
    (legal : ∀ source ∈ sources, isDotted source.toList = true) (member : path ∈ sources)
    (latest : Latest {source | source ∈ sources} path) :
    (bound.runAll (Text.sorted (sources.map importOf))).lookup (moduleAlias path)
      = some (.module path) := by
  have listed : importOf path ∈ Text.sorted (sources.map importOf) :=
    (Text.mem_sorted _ _).mpr (List.mem_map_of_mem member)
  obtain ⟨before, after, split⟩ := List.append_of_mem listed
  have ascending := Text.pairwise_sorted (sources.map importOf)
  rw [split, List.pairwise_append, List.pairwise_cons] at ascending
  rw [split]
  refine Bindings.lookup_runAll_of_last (bindingOf_importOf (legal path member)) ?_
  -- Below are greater lines only, and the latest of the alias is the greatest of its lines.
  intro binding listed same
  obtain ⟨line, later, binds⟩ := List.mem_filterMap.mp listed
  have further : importOf path < line := ascending.2.1.1 line later
  have inside : line ∈ Text.sorted (sources.map importOf) := by simp [split, later]
  obtain ⟨other, own, rfl⟩ := List.mem_map.mp ((Text.mem_sorted _ _).mp inside)
  rw [bindingOf_importOf (legal other own)] at binds
  obtain rfl := Option.some.inj binds
  exact not_lt_of_ge (latest other own same) further

end ScalarMapping

namespace RequestModule

open ScalarMapping

/-- What the annotation for a scalar denotes once the import lines are run. -/
def scalarTarget? (module : RequestModule) (config : Config) (scalar : String) : Option Target :=
  (Bindings.runAll [] module.importLines).denoted? (atom config.registry ⟨.scalar, scalar⟩)

variable {config : Config} {schema : Schema String} {plans : List (Plan String)}
variable {module : RequestModule}

theorem sources_of_build (made : build config schema plans = .ok module) :
    module.sources = config.registry.sourcesFor (scalarNames schema) := by
  rw [build] at made
  obtain ⟨models, -, made⟩ := bind_ok made
  obtain ⟨inputs, -, made⟩ := bind_ok made
  obtain ⟨requests, -, made⟩ := bind_ok made
  split at made
  · cases made
  · obtain ⟨enums, -, made⟩ := bind_ok made
    rw [← Except.ok.inj made]

theorem mem_sources (dotted : ∀ path ∈ config.scalars, isDotted path.2.toList = true)
    (made : build config schema plans = .ok module) {source : String} :
    source ∈ module.sources ↔ source ∈ config.scalarModules schema := by
  rw [sources_of_build made, ScalarRegistry.sourcesFor, List.mem_filterMap]
  constructor
  · rintro ⟨scalar, listed, imports⟩
    obtain ⟨type, declared, rfl⟩ := List.mem_map.mp listed
    rw [Config.mapping_eq] at imports
    exact ⟨type, declared, exists_append_of_source imports⟩
  · rintro ⟨scalar, declared, name, path, undotted⟩
    refine ⟨scalar.name, List.mem_map_of_mem declared, ?_⟩
    have legal := Config.isDotted_scalarPath dotted scalar.name
    rw [path] at legal
    rw [Config.mapping_eq, path,
      ofPath_append (ne_empty_of_isDotted legal) undotted]

theorem lookup_importLines (legal : ∀ source ∈ module.sources, isDotted source.toList = true)
    {path : String} (member : path ∈ module.sources)
    (latest : Latest {source | source ∈ module.sources} path) :
    (Bindings.runAll [] module.importLines).lookup (moduleAlias path)
      = some (.module path) := by
  let sources := "enum" :: "typing" :: module.sources
  have whole : module.importLines = Text.sorted (sources.map importOf)
      ++ ["from typing import ClassVar", "", "import pydantic as _pydantic"] := rfl
  have closing : (["from typing import ClassVar", "", "import pydantic as _pydantic"].filterMap
      bindingOf?).map Prod.fst = ["ClassVar", "_pydantic"] := by decide
  rw [whole]
  -- Of the closing lines one binds an alias: that of a module that a scalar may import as well.
  by_cases own : path = "pydantic"
  · subst own
    have binds : bindingOf? "import pydantic as _pydantic"
        = some (moduleAlias "pydantic", .module "pydantic") := by decide
    rw [List.append_cons, List.append_cons]
    exact Bindings.lookup_runAll_of_last binds nofun
  · have all : ∀ source ∈ sources, isDotted source.toList = true := by
      have standard : ∀ source ∈ ["enum", "typing"], isDotted source.toList = true := by decide
      exact List.forall_mem_append.mpr ⟨standard, legal⟩
    have among : Latest {source | source ∈ sources} path :=
      (latest.cons (by decide) (by decide)).cons (by decide) (by decide)
    have front := lookup_sorted_imports [] all (.tail _ (.tail _ member)) among
    rw [Bindings.runAll, List.foldl_append, ← Bindings.runAll, ← Bindings.runAll,
      Bindings.lookup_runAll, front]
    intro binding listed same
    have name : binding.1 ∈ ["ClassVar", "_pydantic"] := closing ▸ List.mem_map_of_mem listed
    rw [same, List.mem_pair] at name
    rcases name with name | name
    · have first := congrArg (List.head? ∘ String.toList) name
      simp [moduleAlias] at first
    · exact own (eq_of_moduleAlias_eq (by decide) (by decide) name)

theorem denoted_atom {bound : Bindings} {scalar source other name : String}
    (names : config.Names scalar source name) (some : source ≠ "")
    (binds : bound.lookup (moduleAlias source) = .some (.module other)) :
    bound.denoted? (atom config.registry ⟨.scalar, scalar⟩) = .some (.attribute other name) := by
  obtain ⟨path, undotted⟩ := names
  have mapped : (config.registry.mapping scalar).typeText
      = moduleAlias source ++ "." ++ name := by
    rw [Config.mapping_eq, path, ofPath_append some undotted]
  have text : atom config.registry ⟨.scalar, scalar⟩
      = Text.join "." [moduleAlias source, name] := mapped
  have plain : ∀ word ∈ [moduleAlias source, name], '.' ∉ word.toList := by
    simp [dot_not_mem_moduleAlias, undotted]
  rw [Bindings.denoted?, text, parts, Text.splitChars_join rfl plain (List.cons_ne_nil _ _)]
  simp only [binds]

theorem sources_eq_scalarModules (dotted : ∀ path ∈ config.scalars, isDotted path.2.toList = true)
    (made : build config schema plans = .ok module) :
    {source | source ∈ module.sources} = config.scalarModules schema :=
  Set.ext fun _ => mem_sources dotted made

theorem scalarTarget_of_latest (dotted : ∀ path ∈ config.scalars, isDotted path.2.toList = true)
    (made : build config schema plans = .ok module) {scalar source name last : String}
    (names : config.Names scalar source name) (member : last ∈ config.scalarModules schema)
    (same : moduleAlias last = moduleAlias source)
    (latest : Latest (config.scalarModules schema) last) :
    module.scalarTarget? config scalar = some (.attribute last name) := by
  have some : source ≠ "" := by
    have whole := Config.isDotted_scalarPath dotted scalar
    rw [names.1] at whole
    exact ne_empty_of_isDotted whole
  rw [← sources_eq_scalarModules dotted made] at member latest
  have legal : ∀ source ∈ module.sources, isDotted source.toList = true := by
    rw [sources_of_build made]
    exact Config.isDotted_of_mem_sourcesFor dotted
  refine denoted_atom names some ?_
  rw [← same]
  exact lookup_importLines legal member latest

/-- Once the import lines are run, the annotation for a scalar denotes the attribute of the latest
module that shares the alias of its own. So all scalars denote what their paths name exactly where
no two of the modules share an alias. -/
theorem scalars_denote_iff (dotted : ∀ path ∈ config.scalars, isDotted path.2.toList = true)
    (made : build config schema plans = .ok module) :
    (∀ scalar ∈ schema.ofKind .scalar, ∀ source name, config.Names scalar.name source name →
      ∃ last ∈ config.scalarModules schema,
        moduleAlias last = moduleAlias source ∧
        Latest (config.scalarModules schema) last ∧
        module.scalarTarget? config scalar.name = some (.attribute last name)) ∧
    ((∀ scalar ∈ schema.ofKind .scalar, ∀ source name, config.Names scalar.name source name →
        module.scalarTarget? config scalar.name = some (.attribute source name)) ↔
      Set.InjOn moduleAlias (config.scalarModules schema)) := by
  have latest : ∀ source ∈ config.scalarModules schema, ∃ last ∈ config.scalarModules schema,
      moduleAlias last = moduleAlias source ∧
      Latest (config.scalarModules schema) last := by
    rw [← sources_eq_scalarModules dotted made]
    exact fun source member => exists_latest member
  refine ⟨?_, ?_, ?_⟩
  · intro scalar listed source name names
    obtain ⟨last, member, same, latest⟩ := latest source ⟨scalar, listed, name, names⟩
    exact ⟨last, member, same, latest,
      scalarTarget_of_latest dotted made names member same latest⟩
  · intro denote first ⟨scalar, listed, name, names⟩ second ⟨scalar', listed', name', names'⟩ shared
    -- One module is the latest for both of them.
    obtain ⟨last, member, same, latest⟩ := latest first ⟨scalar, listed, name, names⟩
    have here := scalarTarget_of_latest dotted made names member same latest
    have there := scalarTarget_of_latest dotted made names' member (same.trans shared) latest
    rw [denote scalar listed first name names] at here
    rw [denote scalar' listed' second name' names'] at there
    have left := (Target.attribute.inj (Option.some.inj here)).1
    have right := (Target.attribute.inj (Option.some.inj there)).1
    exact left.trans right.symm
  · intro apart scalar listed source name names
    have own : source ∈ config.scalarModules schema := ⟨scalar, listed, name, names⟩
    obtain ⟨last, member, same, latest⟩ := latest source own
    obtain rfl := apart member own same
    exact scalarTarget_of_latest dotted made names member rfl latest

end RequestModule

/-! ### Units -/

def freight : Schema String where
  types := [
    { name := "Query",
      body := .object [{ name := "weight", type := .named ⟨.scalar, "Kilo"⟩ },
        { name := "speed", type := .named ⟨.scalar, "Knot"⟩ }] [] },
    { name := "Kilo", body := .scalar },
    { name := "Knot", body := .scalar }]
  roots := ⟨"Query", none, none⟩

theorem exists_module_of_freight (scalars : List (String × String)) : ∃ plans module,
    Config.planAll { scalars } freight = .ok plans ∧
      RequestModule.build { scalars } freight plans = .ok module := by
  let weight : Field String := { name := "weight", type := .named ⟨.scalar, "Kilo"⟩ }
  let speed : Field String := { name := "speed", type := .named ⟨.scalar, "Knot"⟩ }
  let query : Operation String := ⟨.query, { name := "Query", fields := [weight, speed] }⟩
  have planned : Config.planAll { scalars } freight
      = .ok [⟨query, weight, [], [], [], []⟩, ⟨query, speed, [], [], [], []⟩] :=
    Config.planAll_ok.mpr ⟨rfl, rfl⟩
  exact ⟨_, _, planned, RequestModule.build_of_planAll_ok (by decide) planned⟩

namespace RequestModule

theorem scalars_denote_iff_of_freight :
    let config : Config := ⟨[("Kilo", "units.mass.Kilo"), ("Knot", "units.speed.Knot")], [], none⟩
    (∀ path ∈ config.scalars, isDotted path.2.toList = true) ∧
    ∃ plans module, config.planAll freight = .ok plans ∧ build config freight plans = .ok module ∧
      module.scalarTarget? config "Kilo" = some (.attribute "units.mass" "Kilo") ∧
      module.scalarTarget? config "Knot" = some (.attribute "units.speed" "Knot") := by
  intro config
  have dotted : ∀ path ∈ config.scalars, isDotted path.2.toList = true := by decide
  obtain ⟨plans, module, planned, made⟩ := exists_module_of_freight config.scalars
  obtain ⟨-, whole⟩ := scalars_denote_iff dotted made
  have apart : Set.InjOn ScalarMapping.moduleAlias (config.scalarModules freight) := by
    have different : ∀ first ∈ ["units.mass", "units.speed"],
        ∀ second ∈ ["units.mass", "units.speed"],
        ScalarMapping.moduleAlias first = ScalarMapping.moduleAlias second → first = second := by
      decide
    have sources : module.sources = ["units.mass", "units.speed"] :=
      (sources_of_build made).trans (by decide)
    rw [← sources_eq_scalarModules dotted made, sources]
    exact fun first member second also => different first member second also
  have denote := whole.mpr apart
  refine ⟨dotted, plans, module, planned, made, ?_, ?_⟩
  · exact denote { name := "Kilo", body := .scalar } (by decide) "units.mass" "Kilo" (by decide)
  · exact denote { name := "Knot", body := .scalar } (by decide) "units.speed" "Knot" (by decide)

/-- Two modules with one alias: one of the units denotes a type of the other module. -/
theorem scalarTarget_of_twins :
    let config : Config := ⟨[("Kilo", "units.mass.Kilo"), ("Knot", "units_mass.Knot")], [], none⟩
    (∀ path ∈ config.scalars, isDotted path.2.toList = true) ∧
    ∃ plans module, config.planAll freight = .ok plans ∧ build config freight plans = .ok module ∧
      config.Names "Kilo" "units.mass" "Kilo" ∧
      module.scalarTarget? config "Kilo" = some (.attribute "units_mass" "Kilo") := by
  intro config
  obtain ⟨plans, module, planned, made⟩ := exists_module_of_freight config.scalars
  have sources : module.sources = ["units.mass", "units_mass"] :=
    (sources_of_build made).trans (by decide)
  refine ⟨by decide, plans, module, planned, made, by decide, ?_⟩
  rw [scalarTarget?, importLines, sources]
  decide +kernel

end RequestModule

end GraphqlRequests
