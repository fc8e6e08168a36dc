import GraphqlRequests.Endpoint
import GraphqlRequests.Generate
import GraphqlRequests.Json.Writer
import GraphqlRequests.Load
import GraphqlRequests.Text.Class

/-!
# Running commands

`generate` writes the module for a schema, `fetch` the introspection result of an endpoint. A run
works on a `World`: the files and the connection it is given, and what it has printed, asked for and
written. First it makes the text of one file, and reads only. Then it writes the file. `Libraries`
are the parts of a run that come from elsewhere.
-/

namespace GraphqlRequests

/-- Everything that can go wrong on the way to a text. A reported failure is explained to the user;
the others are let through. -/
inductive Failure where
  | load (cause : LoadFailure)
  | config (cause : Config.LoadFailure)
  | fetch (cause : FetchFailure)
  | generate (cause : GenerateFailure)
  | path (cause : PathFailure)
  deriving DecidableEq, Repr

def Failure.message? : Failure → Option String
  | .load cause => cause.message?
  | .config cause => cause.message?
  | .fetch cause => cause.message?
  | .generate (.plans (.failed failures)) => some (Config.failuresMessage failures)
  | .generate (.illegalModule file) => some ("Generated invalid Python for " ++ file)
  | .generate _ | .path _ => none

def Failure.report? : Failure → Option String
  | .generate (.plans (.failed failures)) => some (Config.failuresMessage failures)
  | .generate _ => none
  | failure => failure.message?

namespace Command

/-! ### Header lines -/

def splitColon : List Char → Option (List Char × List Char)
  | [] => none
  | c :: rest =>
    if c = ':' then some ([], rest) else (splitColon rest).map fun (a, b) => (c :: a, b)

def headerLine? (line : String) : Option (String × String) := do
  let (name, value) ← splitColon line.toList
  let name := Text.strip name
  if name = [] then none else some (String.ofList name, String.ofList (Text.strip value))

def badHeader (line : String) : String :=
  "Expected 'Name: value', got " ++ Text.quoted line

/-- HTTP headers given as `Name: value`. A header given again takes the last value. -/
def headers (lines : List String) : Except String (List (String × String)) := do
  let headers ← lines.mapM fun line =>
    match headerLine? line with
    | some header => .ok header
    | none => .error line
  return headers.foldl (fun found h => Endpoint.setHeader found h.1 h.2) []

/-! ### What is asked for -/

/-- What `generate` is asked for. An empty path of a configuration or of layouts stands for none. -/
structure GenerateOptions where
  schema : String
  output : String
  config : Option String := none
  layouts : Option String := none
  headers : List String := []
  verbose : Bool := false

def GenerateOptions.config? (options : GenerateOptions) : Option String :=
  options.config.filter (· ≠ "")

structure FetchOptions where
  url : String
  output : String
  headers : List String := []
  verbose : Bool := false

inductive Invocation where
  | generate (options : GenerateOptions)
  | fetch (options : FetchOptions)

/-- Why a command stops before it has anything to write: it was used wrongly, something failed, the
layout gives no text, no command was named, or only some information was asked for. -/
inductive Stop where
  | usage (problem : String)
  | failed (failure : Failure)
  | layout (problem : String)
  | noCommand
  | information (text : String)
  deriving DecidableEq, Repr

/-- How a module is laid out as a text; some problem may keep it from giving one. -/
abbrev Layout := RequestModule → Except String String

/-- What a run takes from elsewhere: the reading of arguments, which may look at the files that they
name, and the layouts of a directory, beside what its parts take. -/
class Libraries extends Endpoint.Client, Schema.Language, Config.Validator where
  invocation : Files → List String → Except Stop Invocation
  layout : Files → String → Layout

/-! ### Steps -/

/-- What a command works on, and what it has done: lines printed, requests sent, and the file that
was written, by its path. -/
structure World where
  files : Files
  connection : Connection
  printed : List String := []
  requests : List Request := []
  written : Option (String × String) := none

/-- What comes before the writing. It may stop; what was printed and asked for stays. -/
abbrev Run := ExceptT Stop (StateM World)

namespace Run

def print (line : String) : Run Unit :=
  modify fun world => { world with printed := world.printed ++ [line] }

def fail {α : Type} (failure : Failure) : Run α :=
  throw (.failed failure)

def orStop {α ε : Type} (cause : ε → Stop) : Except ε α → Run α
  | .ok a => pure a
  | .error e => throw (cause e)

def orFail {α ε : Type} (cause : ε → Failure) : Except ε α → Run α :=
  orStop fun e => .failed (cause e)

def headers (lines : List String) : Run (List (String × String)) :=
  orStop (fun line => .usage ("Invalid value for --header: " ++ badHeader line))
    (Command.headers lines)

/-- An output path is looked at before anything else is done. -/
def checkOutput (path : String) : Run Unit :=
  if Path.isBroken path then fail (.path .nullCharacter) else pure ()

def printIf (wanted : Bool) (lines : List String) : Run Unit :=
  if wanted then lines.forM print else pure ()

variable [Libraries]

def fetch (url : String) (headers : List (String × String)) : Run Json := do
  let world ← get
  let (result, request, connection) := world.connection.fetch url headers
  set { world with
    connection := connection.close, requests := world.requests ++ request.toList }
  orFail .fetch result

def localSchema (source : String) : Run (Schema Json) := do
  let files := (← get).files
  match if Path.isBroken source then .nothing else files.find (Path.text source) with
  | .nothing =>
    throw (.usage ("Invalid value for --schema: Path '" ++ source ++ "' does not exist."))
  | .nameTooLong => fail (.path .nameTooLong)
  | .entry _ => orFail .load (Schema.load files source)

def schema (source : String) (headers : List (String × String)) : Run (Schema Json) :=
  if Endpoint.isUrl source then do
    let data ← fetch source headers
    orFail .load (Schema.ofIntrospection data true)
  else localSchema source

def config : Option String → Run Config
  | some path => do orFail .config (Config.load (← get).files path)
  | none => pure {}

end Run

/-! ### Texts to write -/

structure Target where
  path : String
  text : String

def layoutFile : String := "module.py.j2"

section Targets

variable [Libraries]

/-- The layout that is asked for. Where the directory has none, modules are laid out in the built-in
way. -/
def GenerateOptions.layout? (options : GenerateOptions) (files : Files) : Option Layout := do
  let directory ← options.layouts
  if directory ≠ "" ∧ files.isFile (directory ++ "/" ++ layoutFile) then
    some (Libraries.layout files directory)
  else none

def Run.laidOut (layout : Option Layout) (module : RequestModule) : Run String :=
  match layout with
  | some layout => orStop .layout (layout module)
  | none => orFail .generate (Generator.moduleText module)

def operationTitle (kind : OperationKind) : String :=
  String.ofList (Naming.capitalize kind.keyword.toList)

def schemaSummary (schema : Schema Json) : List String :=
  ["  Objects: " ++ toString schema.objects.length,
    "  Enums: " ++ toString (schema.ofKind .enum).length,
    "  Inputs: " ++ toString (schema.ofKind .inputObject).length]
    ++ schema.operations.map fun operation =>
      "  " ++ operationTitle operation.kind ++ " fields: " ++ toString operation.type.fields.length

def generatorFor (schema : Schema Json) (config : Config) : Generator Json where
  schema := schema
  config := config
  headers := config.header.toList.filter (· ≠ "")

def makeModule (options : GenerateOptions) : Run Target := do
  Run.checkOutput options.output
  Run.print "Loading schema..."
  let headers ← Run.headers options.headers
  let schema ← Run.schema options.schema headers
  let config ← Run.config options.config?
  Run.printIf options.verbose (schemaSummary schema)
  Run.print "Generating code..."
  let generator := generatorFor schema config
  let module ← Run.orFail .generate generator.receivedRequests
  let text ← Run.laidOut (options.layout? (← get).files) module
  let code ← Run.orFail .generate (generator.finished (Path.name options.output) text)
  return ⟨options.output, code⟩

def makeResult (options : FetchOptions) : Run Target := do
  Run.checkOutput options.output
  Run.print ("Fetching schema from " ++ options.url ++ "...")
  let headers ← Run.headers options.headers
  let data ← Run.fetch options.url headers
  let schema ← Run.orFail .load (Schema.ofIntrospection data true)
  Run.printIf options.verbose ["  Types: " ++ toString schema.types.length]
  return ⟨options.output, (Json.object [("data", data)]).pretty⟩

/-! ### Whole runs -/

def make : Invocation → Run Target
  | .generate options => makeModule options
  | .fetch options => makeResult options

def Invocation.done : Invocation → String
  | .generate _ => "Done! Generated"
  | .fetch _ => "Done! Wrote"

def placeOf (directory path : String) : String :=
  Path.resolve (if Path.isAbsolute path then path else directory ++ "/" ++ path)

/-- How a command ends: its file is written, or it stopped before that, or the file cannot be
written. -/
inductive Ending where
  | done
  | stopped (stop : Stop)
  | unwritten (cause : PathFailure)
  deriving DecidableEq, Repr

/-- Write a file, with the directories that lead to it. Where something is in the way, what was made
on the way stays. -/
def World.write (world : World) (target : Target) (done : String) : Ending × World :=
  match world.files.write target.path target.text with
  | (files, some cause) => (.unwritten cause, { world with files })
  | (files, none) => (.done, { world with
      files, written := some (target.path, target.text), printed := world.printed ++ [done] })

def perform (directory : String) (invocation : Invocation) (world : World) : Ending × World :=
  match (make invocation).run world with
  | (.error stop, after) => (.stopped stop, after)
  | (.ok target, after) =>
    after.write target (invocation.done ++ " " ++ placeOf directory target.path)

/-- Run the command that the arguments name. -/
def run (directory : String) (arguments : List String) (world : World) : Ending × World :=
  match Libraries.invocation world.files arguments with
  | .error stop => (.stopped stop, world)
  | .ok invocation => perform directory invocation world

/-! ### Outcomes -/

/-- An exit code, and what is explained to the user, or else what was let through. -/
structure Outcome where
  exitCode : Nat
  error : Option String := none
  raised : Option Failure := none
  layoutProblem : Option String := none

def outcome : Ending → Outcome
  | .done => { exitCode := 0 }
  | .unwritten cause => { exitCode := 1, raised := some (.path cause) }
  | .stopped (.information _) => { exitCode := 0 }
  | .stopped .noCommand => { exitCode := 2 }
  | .stopped (.usage problem) => { exitCode := 2, error := some problem }
  | .stopped (.layout problem) => { exitCode := 1, layoutProblem := some problem }
  | .stopped (.failed failure) =>
    match failure.report? with
    | some text => { exitCode := 1, error := some text }
    | none => { exitCode := 1, raised := some failure }

/-- Run a command. Information that was asked for is printed last. -/
def execute (directory : String) (world : World) (arguments : List String) : Outcome × World :=
  let (ending, world) := run directory arguments world
  let information := match ending with
    | .stopped (.information text) => [text]
    | _ => []
  (outcome ending, { world with printed := world.printed ++ information })

end Targets

end Command

end GraphqlRequests
