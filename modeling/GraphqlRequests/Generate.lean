import GraphqlRequests.Filter
import GraphqlRequests.RequestModule.Layout
import GraphqlRequests.Schema.Names
import GraphqlRequests.Source.Statement

/-!
# Generating a module

From a schema to the text of the module: filters, plans, layout, a check that the text is a program,
and headers. `Generator` holds what stays the same over one run. `Generator.code` lays the module out
in the built-in way; with a layout of one's own the steps before and after it are the same.
-/

namespace GraphqlRequests

inductive GenerateFailure where
  | plans (cause : PlanningFailure)
  | emit (cause : EmitFailure)
  | unencodable
  | nullCharacter
  | illegalModule (file : String)
  deriving DecidableEq, Repr

/-! ### Headers -/

namespace Header

def add (header content : String) : String :=
  String.ofList (header.toList.reverse.dropWhile (· = '\n')).reverse ++ "\n\n" ++ content

/-- Add headers in order, so that the last one comes first. -/
def addAll (headers : List String) (content : String) : String :=
  headers.foldl (fun content header => add header content) content

end Header

/-! ### Runs -/

/-- A filtered schema with the options of a run. -/
structure Generator (ν : Type) where
  schema : Schema ν
  config : Config := {}
  headers : List String := []

namespace Generator

variable {ν : Type} [DecidableEq ν] [Name ν]

def plans (generator : Generator ν) : Except GenerateFailure (List (Plan ν)) :=
  (generator.config.planAll generator.schema).mapError .plans

def moduleText (module : RequestModule) : Except GenerateFailure String :=
  match module.descriptionFailure? with
  | some cause => .error (.emit cause)
  | none => if module.canEncode then .ok module.text else .error .unencodable

def requests (generator : Generator ν) : Except GenerateFailure RequestModule := do
  (RequestModule.build generator.config generator.schema (← generator.plans)).mapError .emit

/-- The text of a module as it is written: it has to be a program, and the headers go before it. -/
def finished (generator : Generator ν) (file text : String) : Except GenerateFailure String := do
  if '\x00' ∈ text.toList then throw .nullCharacter
  if !Source.isModule text then throw (.illegalModule file)
  return Header.addAll generator.headers text

def code (generator : Generator ν) (file : String) : Except GenerateFailure String := do
  generator.finished file (← moduleText (← generator.requests))

def warnings (generator : Generator ν) : List String :=
  let plans := generator.plans.toOption.getD []
  ScalarRegistry.pathWarnings generator.config.scalars
    ++ (generator.config.registry.useAll (RequestModule.usedScalars generator.schema plans)).2

/-- The same run on text names, where all names of the schema are texts. -/
def textual? (generator : Generator Json) : Option (Generator String) :=
  generator.schema.textual?.map (⟨·, generator.config, generator.headers⟩)

/-- The module for a schema as received. -/
def receivedRequests (generator : Generator Json) : Except GenerateFailure RequestModule :=
  match generator.textual? with
  | some generator => generator.requests
  | none => generator.requests

def receivedCode (generator : Generator Json) (file : String) : Except GenerateFailure String := do
  generator.finished file (← moduleText (← generator.receivedRequests))

end Generator

end GraphqlRequests
