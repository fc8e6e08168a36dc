import GraphqlRequests.Scalar
import GraphqlRequests.Schema

/-!
# Written type references

A document has references in the notation of the schema language: brackets around the item of a
list, and an exclamation mark after what is not null, as in `[User!]!`. Generated code has them as
annotations, with an annotation for the innermost type in the middle.
-/

namespace GraphqlRequests

variable {ν : Type} [Name ν]

def TypeRef.written : TypeRef (NamedRef ν) → String
  | .named type => Name.shown type.name
  | .list item => "[" ++ item.written ++ "]"
  | .nonNull inner => inner.written ++ "!"

def CodeRef.written : CodeRef String → String
  | .named text => text
  | .list item => "_typing.List[" ++ item.written ++ "]"
  | .optional inner => "_typing.Optional[" ++ inner.written ++ "]"

namespace RequestModule

/-- The annotation for a named type; interfaces and unions take any value. -/
def atom (registry : ScalarRegistry) (type : NamedRef ν) : String :=
  match type.kind with
  | .scalar => (registry.mappingOf type.name).typeText
  | .interface | .union => "_typing.Any"
  | _ => Name.shown type.name

/-- A scalar has to be looked up by its name. -/
def canAnnotate (type : TypeRef (NamedRef ν)) : Bool :=
  type.innermost.kind ≠ .scalar || Name.isKey type.innermost.name

def scalarOf (type : TypeRef (NamedRef ν)) : List ν :=
  if type.innermost.kind = .scalar then [type.innermost.name] else []

end RequestModule

end GraphqlRequests
