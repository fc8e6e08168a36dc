import GraphqlRequests.Text.Bytes
import GraphqlRequests.Text.Split

/-!
# Files

A directory as a table from paths to files and directories, and the paths that lead into it. A path
is followed step by step, and only directories lead on. Texts are read with every line break as
`\n`; not every file holds a text.
-/

namespace GraphqlRequests

namespace Path

def steps (path : String) : List String :=
  (Text.splitChars '/' path.toList).map String.ofList

def stays (step : String) : Bool :=
  step = "" || step = "."

def parts (path : String) : List String :=
  (steps path).filter (!stays ·)

def isAbsolute (path : String) : Bool :=
  path.toList.head? = some '/'

def spell (absolute : Bool) (parts : List String) : String :=
  (if absolute then "/" else "") ++ Text.join "/" parts

/-- The path in its shortest spelling; steps up are kept. -/
def text (path : String) : String :=
  let spelled := spell (isAbsolute path) (parts path)
  if spelled = "" then "." else spelled

/-- One step up from a place, given by its parts, last first. Above the root there is nothing. -/
def stepUp (absolute : Bool) : List String → List String
  | [] => if absolute then [] else [".."]
  | ".." :: rest => ".." :: ".." :: rest
  | _ :: rest => rest

def advance (absolute : Bool) (place : List String) (part : String) : List String :=
  if part = ".." then stepUp absolute place else part :: place

/-- The parts of the place that a path leads to, whatever stands there. -/
def placeParts (path : String) : List String :=
  ((parts path).foldl (advance (isAbsolute path)) []).reverse

def resolve (path : String) : String :=
  spell (isAbsolute path) (placeParts path)

def name (path : String) : String :=
  ((placeParts path).getLast?).getD ""

def parent (path : String) : String :=
  text (spell (isAbsolute path) (placeParts path).dropLast)

def along (path : String) : List String :=
  let steps := steps path
  ((List.range (steps.length + 1)).map fun n => Text.join "/" (steps.take n)).filter (· ≠ "")

/-- The ending of a file name from its last dot; a dot at either end of the name starts none. -/
def suffix (path : String) : String :=
  let name := ((parts path).getLast?).getD ""
  let tail := (name.toList.reverse.takeWhile (· ≠ '.')).reverse
  let before := name.toList.length - tail.length - 1
  if tail.length < name.toList.length ∧ 0 < before ∧ tail ≠ [] then
    String.ofList ('.' :: tail)
  else ""

/-- A path cannot hold a null character. -/
def isBroken (path : String) : Bool :=
  '\x00' ∈ path.toList

/-- The most bytes of a name, and the bytes that no path reaches. -/
def longestName : Nat := 255

def tooLongPath : Nat := 4096

def size (text : String) : Nat :=
  (Text.utf8 text.toList).length

end Path

inductive Entry where
  | file (text : String)
  | binary
  | directory
  deriving DecidableEq, Repr

/-- The entries of a directory by their resolved paths. The directories that lead to an entry need
not be listed. -/
abbrev Files := List (String × Entry)

inductive Found where
  | nothing
  | nameTooLong
  | entry (entry : Entry)
  deriving DecidableEq, Repr

inductive PathFailure where
  | nullCharacter
  | nameTooLong
  | isADirectory
  | notADirectory
  | fileExists
  deriving DecidableEq, Repr

namespace Files

/-- Why a file gives no text: it cannot be opened, or its bytes make none. -/
inductive ReadFailure where
  | unreadable
  | undecodable
  deriving DecidableEq, Repr

def leadsOn (files : Files) (path : String) : Bool :=
  files.any fun e => (path.toList ++ ['/']).isPrefixOf e.1.toList

/-- What stands at a place, given by its parts, last first. Here, the root, and all that is above
are directories. -/
def entryAt? (files : Files) (absolute : Bool) (place : List String) : Option Entry :=
  if place.all (· = "..") then some .directory
  else
    let path := Path.spell absolute place.reverse
    match files.lookup path with
    | some entry => some entry
    | none => if files.leadsOn path then some .directory else none

/-- Follow the steps from a place; each but the last has to lead to a directory. -/
def follow (files : Files) (absolute : Bool) (place : List String) : List String → Found
  | [] =>
    match files.entryAt? absolute place with
    | some entry => .entry entry
    | none => .nothing
  | step :: rest =>
    if files.entryAt? absolute place ≠ some .directory then .nothing
    else if Path.stays step then files.follow absolute place rest
    else if Path.longestName < Path.size step then .nameTooLong
    else files.follow absolute (Path.advance absolute place step) rest

def find (files : Files) (path : String) : Found :=
  if path = "" then .nothing
  else if Path.tooLongPath ≤ Path.size path then .nameTooLong
  else files.follow (Path.isAbsolute path) [] (Path.steps path)

def isFile (files : Files) (path : String) : Bool :=
  match files.find (Path.text path) with
  | .entry .directory => false
  | .entry _ => true
  | _ => false

def read (files : Files) (path : String) : Except ReadFailure String :=
  match files.find (Path.text path) with
  | .entry (.file text) => .ok (String.ofList (Text.normalizeBreaks text.toList))
  | .entry .binary => .error .undecodable
  | _ => .error .unreadable

/-! ### Writing -/

def put (files : Files) (path : String) (entry : Entry) : Files :=
  (path, entry) :: files.filter (·.1 ≠ path)

/-- Make a directory at a place, unless there is one. A file may be in the way. -/
def makeDirectory? (files : Files) (absolute : Bool) (place : List String) : Option Files :=
  match files.entryAt? absolute place with
  | none => some (files.put (Path.spell absolute place.reverse) .directory)
  | some .directory => some files
  | some _ => none

/-- Make the directories that stand at a place and along the parts from it. What is made stays, even
if something is in the way of the others. -/
def makeDirectories (files : Files) (absolute : Bool) (place : List String) :
    List String → Files × Option PathFailure
  | [] =>
    match files.makeDirectory? absolute place with
    | none => (files, some .fileExists)
    | some made => (made, none)
  | part :: rest =>
    match files.makeDirectory? absolute place with
    | none => (files, some .notADirectory)
    | some made =>
      if Path.longestName < Path.size part then (made, some .nameTooLong)
      else made.makeDirectories absolute (part :: place) rest

def writeText (files : Files) (absolute : Bool) (parts : List String) (text : String) :
    Files × Option PathFailure :=
  let path := Path.spell absolute parts
  if Path.tooLongPath ≤ Path.size path ∨ Path.longestName < Path.size (parts.getLast?.getD "") then
    (files, some .nameTooLong)
  else if files.entryAt? absolute parts.reverse = some .directory then (files, some .isADirectory)
  else (files.put path (.file text), none)

def write (files : Files) (path text : String) : Files × Option PathFailure :=
  let absolute := Path.isAbsolute path
  let parts := Path.placeParts path
  if Path.tooLongPath ≤ Path.size (Path.spell absolute parts.dropLast) then
    (files, some .nameTooLong)
  else
    match files.makeDirectories absolute [] parts.dropLast with
    | (made, some cause) => (made, some cause)
    | (made, none) => made.writeText absolute parts text

end Files

end GraphqlRequests
