import GraphqlRequests.Proofs.Command.Run
import GraphqlRequests.Proofs.Outcome

/-!
# What a command has to write

A command makes one text for the path that is given as its output: `generate` the module of all
plans, `fetch` the introspection result of an endpoint.
-/

namespace GraphqlRequests

open Command (Layout Libraries)

/-- The layout makes the text of the module; without one, the module has a text of its own. -/
def RequestModule.LaidOut (module : RequestModule) (layout : Option Layout) (text : String) :
    Prop :=
  match layout with
  | some layout => layout module = .ok text
  | none => text = module.text

namespace Generator

section Names

variable {ν : Type} [DecidableEq ν] [Name ν] {generator : Generator ν} {module : RequestModule}

/-- The module is that of the plans for all fields of the roots. -/
def Requests (generator : Generator ν) (module : RequestModule) : Prop :=
  ∃ plans, generator.config.planAll generator.schema = .ok plans ∧
    RequestModule.build generator.config generator.schema plans = .ok module

theorem requests_of_ok (done : generator.requests = .ok module) : generator.Requests module := by
  unfold requests at done
  obtain ⟨plans, planned, done⟩ := bind_ok done
  exact ⟨plans, mapError_ok planned, mapError_ok done⟩

omit [DecidableEq ν] [Name ν] in
theorem finished_ok {file body text : String} (done : generator.finished file body = .ok text) :
    Source.isModule body = true ∧ text = Header.addAll generator.headers body := by
  unfold finished at done
  dsimp only at done
  split at done
  · cases done
  split at done
  · cases done
  next legal => exact ⟨by simpa using legal, (Except.ok.inj done).symm⟩

end Names

/-- The same for a schema as received, by text names where all its names are texts. -/
def RequestsReceived (generator : Generator Json) (module : RequestModule) : Prop :=
  match generator.textual? with
  | some textual => textual.Requests module
  | none => generator.Requests module

theorem requestsReceived_of_ok {generator : Generator Json} {module : RequestModule}
    (done : generator.receivedRequests = .ok module) : generator.RequestsReceived module := by
  unfold receivedRequests at done
  unfold RequestsReceived
  revert done
  cases generator.textual? with
  | some textual => exact requests_of_ok
  | none => exact requests_of_ok

end Generator

namespace Command

variable [Libraries] {world after : World} {source : String} {headers : List (String × String)}
variable {schema : Schema Json}

/-! ### Sources -/

/-- The source stands for the schema: it is an endpoint that has it, or the path of its file. -/
def World.Offers (world : World) (source : String) (headers : List (String × String))
    (schema : Schema Json) : Prop :=
  if Endpoint.isUrl source then
    ∃ data, (world.connection.fetch source headers).1 = .ok data ∧
      Schema.ofIntrospection data true = .ok schema
  else Schema.load world.files source = .ok schema

def Configures (files : Files) (config : Config) : Option String → Prop
  | some path => Config.load files path = .ok config
  | none => config = {}

theorem fetch_ok {data : Json} (done : (Run.fetch source headers).run world = (.ok data, after)) :
    (world.connection.fetch source headers).1 = .ok data := by
  rw [Run.run_fetch] at done
  exact mapError_ok (Prod.mk.inj done).1

theorem offers_of_schema_ok
    (done : (Run.schema source headers).run world = (.ok schema, after)) :
    world.Offers source headers schema := by
  unfold Run.schema at done
  unfold World.Offers
  split at done
  · next isUrl =>
    rw [if_pos isUrl]
    obtain ⟨data, between, fetched, done⟩ := Run.bind_ok done
    exact ⟨data, fetch_ok fetched, (Run.orStop_ok done).1⟩
  · next isPath =>
    rw [if_neg isPath]
    unfold Run.localSchema at done
    rw [Run.run_get_bind] at done
    dsimp only at done
    split at done
    · cases (Prod.mk.inj done).1
    · cases (Prod.mk.inj done).1
    · exact (Run.orStop_ok done).1

theorem configures_of_config_ok {path : Option String} {config : Config}
    (done : (Run.config path).run world = (.ok config, after)) :
    Configures world.files config path := by
  cases path with
  | none => exact (Except.ok.inj (Prod.mk.inj done).1).symm
  | some path =>
    unfold Run.config at done
    rw [Run.run_get_bind] at done
    exact (Run.orStop_ok done).1

omit [Libraries] in
theorem laidOut_ok {layout : Option Layout} {module : RequestModule} {text : String}
    (done : (Run.laidOut layout module).run world = (.ok text, after)) :
    module.LaidOut layout text := by
  cases layout with
  | some layout => exact (Run.orStop_ok done).1
  | none =>
    have given : Generator.moduleText module = .ok text := (Run.orStop_ok done).1
    unfold Generator.moduleText at given
    split at given
    · cases given
    · split at given
      · exact (Except.ok.inj given).symm
      · cases given

/-! ### Targets -/

/-- The text is what `generate` makes: the module of all plans as it is laid out, which is a program,
with the header of the configuration before it. -/
def World.Generates (world : World) (options : GenerateOptions) (text : String) : Prop :=
  ∃ headers schema config module body,
    Command.headers options.headers = .ok headers ∧
    world.Offers options.schema headers schema ∧
    Configures world.files config options.config? ∧
    (generatorFor schema config).RequestsReceived module ∧
    module.LaidOut (options.layout? world.files) body ∧ Source.isModule body = true ∧
    text = Header.addAll (generatorFor schema config).headers body

/-- The value is the introspection result of the endpoint, and it holds the schema. -/
def World.Fetches (world : World) (options : FetchOptions) (data : Json) (schema : Schema Json) :
    Prop :=
  ∃ headers, Command.headers options.headers = .ok headers ∧
    (world.connection.fetch options.url headers).1 = .ok data ∧
    Schema.ofIntrospection data true = .ok schema

/-- What the command has to write, and where. -/
def World.Makes (world : World) (target : Target) : Invocation → Prop
  | .generate options => target.path = options.output ∧ world.Generates options target.text
  | .fetch options => target.path = options.output ∧ ∃ data schema,
      world.Fetches options data schema ∧ target.text = (Json.object [("data", data)]).pretty

variable {target : Target}

theorem makes_of_makeModule_ok {options : GenerateOptions}
    (done : (makeModule options).run world = (.ok target, after)) :
    world.Makes target (.generate options) ∧ Path.isBroken target.path = false := by
  unfold makeModule at done
  obtain ⟨fine, done⟩ := Run.checkOutput_bind_ok done
  rw [Run.run_print_bind] at done
  obtain ⟨headers, parsed, done⟩ := Run.orStop_bind_ok done
  -- The schema may come from a server, so the world is another one, but its files are the same.
  obtain ⟨schema, loaded, got, received, done⟩ := (Run.ReadsOnly.schema _ _).bind_ok done
  obtain ⟨config, prepared, configured, kept, done⟩ := (Run.ReadsOnly.config _).bind_ok done
  obtain ⟨_, shown, -, summed, done⟩ := (Run.ReadsOnly.printIf _ _).bind_ok done
  rw [Run.run_print_bind] at done
  obtain ⟨module, requested, done⟩ := Run.orStop_bind_ok done
  rw [Run.run_get_bind] at done
  obtain ⟨body, _, laid, done⟩ := Run.bind_ok done
  obtain ⟨code, finished, done⟩ := Run.orStop_bind_ok done
  obtain rfl := Except.ok.inj (Prod.mk.inj done).1
  have offers := offers_of_schema_ok got
  have configures := configures_of_config_ok configured
  have layout := laidOut_ok laid
  simp only [summed, kept, received] at configures layout
  obtain ⟨legal, text⟩ := Generator.finished_ok finished
  exact ⟨⟨rfl, headers, schema, config, module, body, parsed, offers, configures,
    Generator.requestsReceived_of_ok requested, layout, legal, text⟩, fine⟩

theorem makes_of_makeResult_ok {options : FetchOptions}
    (done : (makeResult options).run world = (.ok target, after)) :
    world.Makes target (.fetch options) ∧ Path.isBroken target.path = false := by
  unfold makeResult at done
  obtain ⟨fine, done⟩ := Run.checkOutput_bind_ok done
  rw [Run.run_print_bind] at done
  obtain ⟨headers, parsed, done⟩ := Run.orStop_bind_ok done
  obtain ⟨data, _, fetched, done⟩ := Run.bind_ok done
  obtain ⟨schema, decoded, done⟩ := Run.orStop_bind_ok done
  obtain ⟨_, _, -, done⟩ := Run.bind_ok done
  obtain rfl := Except.ok.inj (Prod.mk.inj done).1
  have received := fetch_ok fetched
  exact ⟨⟨rfl, data, schema, ⟨headers, parsed, received, decoded⟩, rfl⟩, fine⟩

theorem makes_of_make_ok {invocation : Invocation}
    (done : (make invocation).run world = (.ok target, after)) :
    world.Makes target invocation ∧ Path.isBroken target.path = false := by
  cases invocation with
  | generate options => exact makes_of_makeModule_ok done
  | fetch options => exact makes_of_makeResult_ok done

end Command

end GraphqlRequests
