import GraphqlRequests.Schema

/-!
# Type filters

A filter drops the named types whose names start or end in a given way. Operation roots stay.
-/

namespace GraphqlRequests

/-- Which type names to drop; an empty text drops none. -/
structure TypeFilter where
  droppedPrefix : Option String := none
  droppedSuffix : Option String := none
  deriving DecidableEq, Repr

/-- Why a filter cannot be applied: the types left over make no schema, or a name to compare is no
text. -/
inductive FilterFailure (ν : Type) where
  | flawed (flaw : Schema.Flaw ν)
  | nameNotText
  deriving DecidableEq, Repr

namespace TypeFilter

def matches? (test : List Char → Bool) : Option String → Bool
  | some s => s ≠ "" && test s.toList
  | none => false

def keeps (filter : TypeFilter) (name : String) : Bool :=
  !(matches? (·.isPrefixOf name.toList) filter.droppedPrefix)
    && !(matches? (·.isSuffixOf name.toList) filter.droppedSuffix)

def comparesNames (filter : TypeFilter) : Bool :=
  matches? (fun _ => true) filter.droppedPrefix || matches? (fun _ => true) filter.droppedSuffix

variable {ν : Type} [DecidableEq ν] [Name ν]

def canCompare (filter : TypeFilter) (schema : Schema ν) : Bool :=
  !filter.comparesNames || schema.types.all fun t => schema.isRoot t || Name.isText t.name

def apply (filter : TypeFilter) (schema : Schema ν) : Except (FilterFailure ν) (Schema ν) :=
  if filter.canCompare schema then
    (schema.filter fun type => filter.keeps (Name.text type.name)).mapError .flawed
  else .error .nameNotText

def applyAll (filters : List TypeFilter) (schema : Schema ν) :
    Except (FilterFailure ν) (Schema ν) :=
  filters.foldlM (fun schema filter => filter.apply schema) schema

end TypeFilter

end GraphqlRequests
