import GraphqlRequests.Sdl.Token
import GraphqlRequests.Selection

/-!
# What a document selects

The selections on the root field of an operation, and the fragments that follow the operation.
`Body.read` reads them from the text after the root field, token by token, and `Body.unfold` puts
fragments in the place of their spreads, level by level.
-/

namespace GraphqlRequests.Document

open Sdl (Token)

/-- One selection: a field by itself, a field around selections, or the spread of a fragment. -/
inductive Item where
  | leaf (name : String)
  | nested (name : String) (items : List Item)
  | spread (key : String)

/-- A fragment: its key, the type that it is on, and what it selects. -/
structure Definition where
  key : String
  type : String
  items : List Item

structure Body where
  root : List Item
  definitions : List Definition

/-! ### Reading -/

def readItems : Nat → List Token → Option (List Item × List Token)
  | 0, _ => none
  | _ + 1, .mark "\x7d" :: rest => some ([], rest)
  | left + 1, .mark "..." :: .name key :: rest =>
    if key = "on" then none
    else do
      let (items, rest) ← readItems left rest
      return (.spread key :: items, rest)
  | left + 1, .name name :: .mark "\x7b" :: rest => do
    let (inner, rest) ← readItems left rest
    let (items, rest) ← readItems left rest
    return (.nested name inner :: items, rest)
  | left + 1, .name name :: rest => do
    let (items, rest) ← readItems left rest
    return (.leaf name :: items, rest)
  | _, _ => none

def readDefinitions : Nat → List Token → Option (List Definition)
  | _, [] => some []
  | left + 1,
    .name "fragment" :: .name key :: .name "on" :: .name type :: .mark "\x7b" :: rest => do
    let (items, rest) ← readItems rest.length rest
    return ⟨key, type, items⟩ :: (← readDefinitions left rest)
  | _, _ => none

/-- What follows the root field of an operation: its selections, if it has any, the end of the
operation, and fragments. -/
def Body.readTokens (tokens : List Token) : Option Body := do
  let (root, rest) ← match tokens with
    | .mark "\x7b" :: rest => readItems rest.length rest
    | rest => some ([], rest)
  match rest with
  | .mark "\x7d" :: rest => return ⟨root, ← readDefinitions rest.length rest⟩
  | _ => none

def Body.read (text : String) : Option Body := do
  Body.readTokens (← Sdl.tokens? text)

/-! ### Spreads -/

def spreads : List Item → List String
  | [] => []
  | .leaf _ :: rest => spreads rest
  | .nested _ inner :: rest => spreads inner ++ spreads rest
  | .spread key :: rest => key :: spreads rest

namespace Body

def spreads (body : Body) : List String :=
  Document.spreads body.root ++ body.definitions.flatMap fun d => Document.spreads d.items

def keys (body : Body) : List String :=
  body.definitions.map (·.key)

/-- The keys that are spread on the root field, or by a fragment that is itself needed. -/
inductive Needs (body : Body) : String → Prop where
  | root {key} (spread : key ∈ Document.spreads body.root) : Needs body key
  | step {d key} (needed : Needs body d.key) (member : d ∈ body.definitions)
      (spread : key ∈ Document.spreads d.items) : Needs body key

/-- The first fragment with a key. -/
def definition? (body : Body) (key : String) : Option Definition :=
  body.definitions.find? (·.key = key)

end Body

/-! ### Unfolding -/

inductive Tree where
  | leaf (name : String)
  | nested (name : String) (trees : List Tree)

def graft (trees? : String → Option (List Tree)) : List Item → Option (List Tree)
  | [] => some []
  | .leaf name :: rest => do return .leaf name :: (← graft trees? rest)
  | .nested name inner :: rest => do
    return .nested name (← graft trees? inner) :: (← graft trees? rest)
  | .spread key :: rest => do return (← trees? key) ++ (← graft trees? rest)

/-- Put the selections of its fragment in the place of each spread, so many levels deep; below,
spreads are cut off. There is no result if a spread has no fragment. -/
def Body.unfold (body : Body) : Nat → List Item → Option (List Tree)
  | 0 => graft fun _ => some []
  | depth + 1 => graft fun key => do body.unfold depth (← body.definition? key).items

/-! ### Writing -/

/-- The lines of selections, those inside of a field further to the right. -/
def itemLines : List Item → List String
  | [] => []
  | .leaf name :: rest => name :: itemLines rest
  | .nested name inner :: rest =>
    (name ++ " \x7b") :: ((itemLines inner).map (Selection.indent ++ ·) ++ "\x7d" :: itemLines rest)
  | .spread key :: rest => Fragment.spread key :: itemLines rest

def Definition.lines (d : Definition) : List String :=
  ("fragment " ++ d.key ++ " on " ++ d.type ++ " \x7b")
    :: ((itemLines d.items).map (Selection.indent ++ ·) ++ ["\x7d"])

def Body.lines (body : Body) : List String :=
  " \x7b" :: ((itemLines body.root).map (Selection.indent ++ Selection.indent ++ ·)
    ++ [Selection.indent ++ "\x7d", "\x7d"] ++ body.definitions.flatMap fun d => "" :: d.lines)

inductive Named : List Item → Prop where
  | nil : Named []
  | leaf {name rest} (named : Sdl.isName name.toList = true) (others : Named rest) :
      Named (.leaf name :: rest)
  | nested {name inner rest} (named : Sdl.isName name.toList = true) (inside : Named inner)
      (others : Named rest) : Named (.nested name inner :: rest)
  | spread {key rest} (named : Sdl.isName key.toList = true) (other : key ≠ "on")
      (others : Named rest) : Named (.spread key :: rest)

structure Definition.Named (d : Definition) : Prop where
  key : Sdl.isName d.key.toList = true
  type : Sdl.isName d.type.toList = true
  items : Document.Named d.items

structure Body.Named (body : Body) : Prop where
  root : Document.Named body.root
  definitions : ∀ d ∈ body.definitions, d.Named

end GraphqlRequests.Document
