import GraphqlRequests.RequestModule

/-!
# The text of a generated module

Every part is a list of lines; the module is all lines, each with a line break after it.
-/

namespace GraphqlRequests

namespace RequestModule

def opening : List String :=
  ["\"\"\"Generated GraphQL requests.", "",
    "Do not edit this file; regenerate it with gql-specgen instead.", "\"\"\"", "",
    "from __future__ import annotations", ""]

/-- The imports, in order: those of the standard modules and of the scalars' modules first. -/
def importLines (module : RequestModule) : List String :=
  Text.sorted (["import enum as _enum", "import typing as _typing"]
      ++ module.sources.map ScalarMapping.importOf)
    ++ ["from typing import ClassVar", "", "import pydantic as _pydantic"]

def described (description : Json) : Option String :=
  if description.isPresent then description.text? else none

def commentLines (description : Json) : List String :=
  (described description).toList.map fun text => "    # " ++ Text.comment text

def docstringLine (body : String) : String :=
  "    \"\"\"" ++ body ++ "\"\"\""

def docstringLines (description : Json) : List String :=
  match described description with
  | some text => [docstringLine (Text.docstring text), ""]
  | none => []

def attributeLines (a : Attribute) : List String :=
  commentLines a.description
    ++ ["    " ++ a.name ++ ": " ++ a.type.written ++ " = _pydantic.Field("
      ++ (if a.required then "" else "default=None, ")
      ++ "alias=" ++ Text.quoted a.sourceName ++ ")"]

def attributeBlock (attributes : List Attribute) : List String :=
  if attributes = [] then [] else "" :: attributes.flatMap attributeLines

def enumLines (enum : EnumClass) : List String :=
  ["", "", "class " ++ enum.name ++ "(str, _enum.Enum):"]
    ++ docstringLines enum.description
    ++ enum.members.flatMap fun member =>
      commentLines member.description
        ++ ["    " ++ member.name ++ " = " ++ Text.quoted member.value]

def classLine (name : String) : String :=
  "class " ++ name ++ "(_pydantic.BaseModel):"

def configLine : String :=
  "    model_config = _pydantic.ConfigDict(populate_by_name=True)"

def modelLines (model : ModelClass) : List String :=
  ["", "", classLine model.name]
    ++ docstringLines model.description
    ++ [configLine]
    ++ attributeBlock model.attributes

def requestSummary (request : RequestClass) : String :=
  "Request for the \x60" ++ request.field ++ "\x60 " ++ request.operation.keyword ++ " field."

def requestDocstring (request : RequestClass) : String :=
  match described request.description with
  | some text => Text.docstring text
  | none => requestSummary request

def requestLines (request : RequestClass) : List String :=
  ["", "", classLine request.name, docstringLine (requestDocstring request), "", configLine, "",
    "    operation_type: ClassVar[str] = " ++ Text.quoted request.operation.keyword,
    "    operation_name: ClassVar[str] = " ++ Text.quoted request.operationName,
    "    root_selection_keys: ClassVar[_typing.FrozenSet[str]] = frozenset("
      ++ Text.quotedList request.rootKeys ++ ")",
    "    document: ClassVar[str] = " ++ Text.quoted request.document]
    ++ attributeBlock request.attributes
    ++ ["", "    def payload(self) -> _typing.Dict[str, _typing.Any]:",
      "        \"\"\"Request body for the GraphQL endpoint.\"\"\"",
      "        return \x7b",
      "            \"operationName\": self.operation_name,",
      "            \"query\": self.document,",
      "            \"variables\": "
        ++ "self.model_dump(mode=\"json\", by_alias=True, exclude_none=True),",
      "        \x7d",
      "",
      "    @classmethod",
      "    def parse_result(cls, data: _typing.Dict[str, _typing.Any]) -> "
        ++ request.result.written ++ ":",
      "        \"\"\"Validate this field's entry in the response \x60\x60data\x60\x60.\"\"\"",
      "        adapter = _pydantic.TypeAdapter(" ++ request.result.written ++ ")",
      "        return adapter.validate_python(data.get("
        ++ Text.quoted request.field ++ "))"]

def part {α : Type} (title : String) (lines : α → List String) (items : List α) : List String :=
  if items.isEmpty then [] else ["", "", "# " ++ title] ++ items.flatMap lines

def rebuilt (module : RequestModule) : List String :=
  module.inputs.map (·.name) ++ module.models.map (·.name) ++ module.requests.map (·.name)

def textLines (module : RequestModule) : List String :=
  opening
    ++ module.importLines
    ++ part "Enums" enumLines module.enums
    ++ part "Input objects" modelLines module.inputs
    ++ part "Response models" modelLines module.models
    ++ part "Requests" requestLines module.requests
    ++ (if module.rebuilt = [] then []
      else "" :: "" :: module.rebuilt.map (· ++ ".model_rebuild()"))

def text (module : RequestModule) : String :=
  String.join (module.textLines.map (· ++ "\n"))

end RequestModule

end GraphqlRequests
