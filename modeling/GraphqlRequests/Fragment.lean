import GraphqlRequests.Text.Class

/-!
# Fragments

A table holds fragment bodies by key. A body spreads another fragment by naming its key after three
dots. `closure` collects the fragments that a document needs: the roots, and all that a collected
body spreads, breadth-first.
-/

namespace GraphqlRequests.Fragment

open Text

abbrev Table := List (String × String)

def key (typeName : String) : String :=
  typeName ++ "Fragment"

def spread (key : String) : String :=
  "..." ++ key

def endsWord : List Char → Bool
  | [] => true
  | c :: _ => !isWord c

def startsWith (marker text : List Char) : Bool :=
  marker.isPrefixOf text && endsWord (text.drop marker.length)

def occurs (marker : List Char) : List Char → Bool
  | [] => startsWith marker []
  | c :: rest => startsWith marker (c :: rest) || occurs marker rest

/-- Does the body spread the fragment? The spread of a longer key does not count. -/
def spreads (body key : String) : Bool :=
  occurs (spread key).toList body.toList

namespace Table

def get? (table : Table) (key : String) : Option String :=
  List.lookup key table

def insert (table : Table) (key body : String) : Table :=
  match table with
  | [] => [(key, body)]
  | (k, b) :: rest => if k = key then (k, body) :: rest else (k, b) :: insert rest key body

theorem get?_insert (table : Table) (key name body : String) :
    (table.insert key body).get? name = if name = key then some body else table.get? name := by
  induction table with
  | nil => simp only [insert, get?, List.lookup_cons]; grind
  | cons e rest ih =>
    obtain ⟨k, b⟩ := e
    simp only [get?] at ih ⊢
    by_cases h : k = key <;> simp only [insert, h, if_true, if_false, List.lookup_cons] <;> grind

def ofList (entries : List (String × String)) : Table :=
  entries.foldl (fun table e => table.insert e.1 e.2) []

def erase (table : Table) (key : String) : Table :=
  table.filter fun e => e.1 ≠ key

def keys (table : Table) : List String :=
  table.map Prod.fst

end Table

/-- Take the distinct roots out of the table, in order: what was taken and what is left. The first
root that is not in the table is the failure. -/
def takeRoots (table taken : Table) : List String → Except String (Table × Table)
  | [] => .ok (taken, table)
  | root :: rest =>
    if root ∈ taken.keys then takeRoots table taken rest
    else match table.get? root with
      | none => .error root
      | some body => takeRoots (table.erase root) (taken ++ [(root, body)]) rest

/-- The entries of the table that a body spreads. -/
def Table.spreadBy (table : Table) (body : String) : Table :=
  table.filter fun e => spreads body e.1

def Table.notSpreadBy (table : Table) (body : String) : Table :=
  table.filter fun e => !spreads body e.1

theorem Table.length_spreadBy_add (table : Table) (body : String) :
    (table.spreadBy body).length + (table.notSpreadBy body).length = table.length := by
  induction table with
  | nil => rfl
  | cons e rest ih =>
    simp only [spreadBy, notSpreadBy] at ih
    by_cases h : spreads body e.1 <;> simp [spreadBy, notSpreadBy, h] <;> omega

/-- Collect what the queued bodies spread, body by body, and queue it in turn. What is found leaves
the remaining table, so no key is queued twice. -/
def expand (remaining collected : Table) : List String → Table
  | [] => collected
  | body :: queue =>
    expand (remaining.notSpreadBy body) (collected ++ remaining.spreadBy body)
      (queue ++ (remaining.spreadBy body).map Prod.snd)
termination_by queue => 2 * remaining.length + queue.length
decreasing_by
  have := remaining.length_spreadBy_add body
  simp only [List.length_append, List.length_map, List.length_cons]
  omega

/-- The fragments that a document with the given root keys needs, or the first root that the table
lacks. -/
def closure (table : Table) (roots : List String) : Except String Table := do
  let (taken, remaining) ← takeRoots table [] roots
  return expand remaining taken (taken.map Prod.snd)

end GraphqlRequests.Fragment
