import GraphqlRequests.Config
import GraphqlRequests.Json.Reader

/-!
# The shape of configurations

The validator that the command line runs with. `Config.ofJson` checks a value against the shape of a
configuration and lists everything that does not fit; the text of a file has to be strict JSON.
-/

namespace GraphqlRequests.Config

/-- A checked part: its value, or all that is wrong with it. -/
abbrev Check := Except (List Problem)

def checkAll {α β : Type} (check : α → Check β) : List α → Check (List β)
  | [] => .ok []
  | a :: rest =>
    match check a, checkAll check rest with
    | .ok b, .ok bs => .ok (b :: bs)
    | .error e, .ok _ => .error e
    | .ok _, .error e => .error e
    | .error e, .error f => .error (e ++ f)

def text (location : List Step) : Json → Check String
  | .string s => .ok s
  | _ => .error [⟨.text, location⟩]

def texts (location : List Step) : Json → Check (List String)
  | .array items =>
    checkAll (fun (item, i) => text (location ++ [.index i]) item) items.zipIdx
  | _ => .error [⟨.array, location⟩]

/-- Set the value of a key: an earlier one keeps its place and takes the new value. -/
def setEntry {β : Type} (entries : List (String × β)) (key : String) (value : β) :
    List (String × β) :=
  match entries with
  | [] => [(key, value)]
  | (k, v) :: rest => if k = key then (k, value) :: rest else (k, v) :: setEntry rest key value

/-- A value for each key of an object. Of a key that occurs several times every value is checked,
and the last one counts. -/
def table {β : Type} (check : List Step → Json → Check β) (location : List Step) :
    Json → Check (List (String × β))
  | .object members => do
    let entries ← checkAll (fun (k, v) => (check (location ++ [.key k]) v).map (k, ·)) members
    return entries.foldl (fun found e => setEntry found e.1 e.2) []
  | _ => .error [⟨.object, location⟩]

def part {β : Type} (absent : β) (check : List Step → Json → Check β) (key : String)
    (members : List (String × Json)) : Check β :=
  match Json.member? key members with
  | none => .ok absent
  | some value => check [.key key] value

def optionalText (location : List Step) : Json → Check (Option String)
  | .null => .ok none
  | value => (text location value).map some

def problems {β : Type} : Check β → List Problem
  | .ok _ => []
  | .error e => e

def keys : List String := ["scalars", "selections", "header"]

/-- Check a value against the shape of a configuration. Of a part that occurs several times only the
last value counts. -/
def ofJson : Json → Check Config
  | .object members =>
    let members := Json.distinctMembers members
    let scalars := part [] (table text) "scalars" members
    let selections := part [] (table texts) "selections" members
    let header := part none optionalText "header" members
    let unknown := members.filterMap fun (k, _) =>
      if k ∈ keys then none else some ⟨.absent, [.key k]⟩
    match scalars, selections, header, unknown with
    | .ok scalars, .ok selections, .ok header, [] => .ok ⟨scalars, selections, header⟩
    | _, _, _, _ =>
      .error (problems scalars ++ problems selections ++ problems header ++ unknown)
  | _ => .error [⟨.topObject, []⟩]

def ofText (text : String) : Check Config :=
  match Json.read .strict text with
  | .error _ => .error [⟨.validJson, []⟩]
  | .ok value => ofJson value

end GraphqlRequests.Config
