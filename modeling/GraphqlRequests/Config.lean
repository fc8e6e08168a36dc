import GraphqlRequests.Files
import GraphqlRequests.Scalar

/-!
# Configuration

Paths for custom scalars, fields selected per type, and a header. What checks the text of a
configuration file is a parameter: it finds a configuration, or lists everything that does not fit.
-/

namespace GraphqlRequests

/-- The options of one generation run; types that are not listed select all fields. -/
structure Config where
  scalars : List (String × String) := []
  selections : List (String × List String) := []
  header : Option String := none
  deriving DecidableEq, Repr

namespace Config

def selectionFor (config : Config) (type : String) : Option (List String) :=
  config.selections.lookup type

def registry (config : Config) : ScalarRegistry :=
  .ofPaths config.scalars

/-! ### Problems -/

inductive Step where
  | key (name : String)
  | index (i : Nat)
  deriving DecidableEq, Repr

inductive Expected where
  | validJson
  | topObject
  | object
  | array
  | text
  | absent
  deriving DecidableEq, Repr

def Expected.toName : Expected → String
  | .validJson => "json_invalid"
  | .topObject => "model_type"
  | .object => "dict_type"
  | .array => "list_type"
  | .text => "string_type"
  | .absent => "extra_forbidden"

structure Problem where
  expected : Expected
  location : List Step
  deriving DecidableEq, Repr

/-- What checks the text of a configuration file. -/
class Validator where
  validate : String → Except (List Problem) Config

/-! ### Configuration files -/

/-- Why a configuration file cannot be used. Nothing is said about a path that cannot be one, and
about bytes that make no text. -/
inductive LoadFailure where
  | brokenPath
  | unreadableFile (path : String)
  | undecodable
  | invalid (path : String) (problems : List Problem)
  deriving DecidableEq, Repr

def LoadFailure.message? : LoadFailure → Option String
  | .brokenPath | .undecodable => none
  | .unreadableFile path => some ("Cannot read config file " ++ Path.text path)
  | .invalid path _ => some ("Invalid config file " ++ Path.text path)

def load [Validator] (files : Files) (path : String) : Except LoadFailure Config :=
  if Path.isBroken path then .error .brokenPath
  else match files.read path with
    | .error .unreadable => .error (.unreadableFile path)
    | .error .undecodable => .error .undecodable
    | .ok text => (Validator.validate text).mapError (.invalid path)

end Config

end GraphqlRequests
