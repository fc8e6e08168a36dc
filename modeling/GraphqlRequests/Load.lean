import GraphqlRequests.Files
import GraphqlRequests.Introspection
import GraphqlRequests.Json.Reader

/-!
# Loading schemas

A schema comes as an introspection result or as a text in the schema language. Both are decoded in
one way: the text is turned into its introspection result first. What does that, and what checks an
introspection result as a whole, is a parameter.
-/

namespace GraphqlRequests

namespace Introspection

/-- What a check of an introspection result comes to: passed, or failed, or stopped at a value that
should have been an object. -/
inductive Verdict where
  | pass
  | fail
  | notAnObject
  deriving DecidableEq, Repr

end Introspection

namespace Schema

/-- Why a text in the schema language has no introspection result: it cannot be read, it does not
make a schema, or an enum value is deprecated for something that is no text. -/
inductive TextFailure where
  | unreadable
  | invalid
  | badReason
  deriving DecidableEq, Repr

/-- What knows the schema language: the check of an introspection result as a whole, and the
introspection result of a text. -/
class Language where
  check : Json → Introspection.Verdict
  introspect : String → Except TextFailure Json

end Schema

inductive LoadFailure where
  | brokenPath
  | unreadableFile (path : String)
  | undecodable
  | notJson (path : String)
  | longNumber
  | tooDeep
  | notIntrospection (path : String)
  | introspection (cause : Introspection.Failure)
  | incomplete
  | notAnObject
  | unreadableText
  | invalidText
  | badReason
  deriving DecidableEq, Repr

def LoadFailure.message? : LoadFailure → Option String
  | .unreadableFile path => some ("Cannot read schema file " ++ Path.text path)
  | .notJson path => some (Path.text path ++ " is not valid JSON")
  | .notIntrospection path => some (Path.text path ++ " does not hold an introspection result")
  | .introspection (.malformed cause) => some ("Malformed introspection result: " ++ cause.message)
  | .introspection (.flawed flaw) => some (flaw.message)
  | .introspection .notAnObject | .introspection .namelessType => none
  | .incomplete => some "Invalid introspection result"
  | .notAnObject => none
  | .unreadableText => some "Invalid SDL"
  | .invalidText | .badReason | .longNumber | .tooDeep | .brokenPath | .undecodable => none

namespace Schema

variable [Language]

/-- The schema of an introspection result, perhaps checked a second time as a whole. -/
def ofIntrospection (value : Json) (checked : Bool) : Except LoadFailure (Schema Json) := do
  let schema ← (Introspection.decode value).mapError .introspection
  if checked then
    match Language.check (Introspection.unwrap value) with
    | .pass => return schema
    | .fail => throw .incomplete
    | .notAnObject => throw .notAnObject
  else return schema

def ofText (text : String) : Except LoadFailure (Schema Json) :=
  match Language.introspect text with
  | .error .unreadable => .error .unreadableText
  | .error .invalid => .error .invalidText
  | .error .badReason => .error .badReason
  | .ok value => ofIntrospection value false

def textSuffixes : List String := [".graphql", ".graphqls", ".gql"]

/-- The schema of a file: a text in the schema language, by its ending, or a JSON file that holds an
introspection result. -/
def load (files : Files) (path : String) : Except LoadFailure (Schema Json) :=
  if Path.isBroken path then .error .brokenPath
  else match files.read path with
    | .error .unreadable => .error (.unreadableFile path)
    | .error .undecodable => .error .undecodable
    | .ok text =>
      if Path.suffix path ∈ textSuffixes then ofText text
      else match Json.read .lenient text with
        | .error .malformed => .error (.notJson path)
        | .error .longNumber => .error .longNumber
        | .error .tooDeep => .error .tooDeep
        | .ok (.object members) => ofIntrospection (.object members) true
        | .ok _ => .error (.notIntrospection path)

end Schema

end GraphqlRequests
