import GraphqlRequests.Command.Run
import GraphqlRequests.Text.Similar

/-!
# Command-line arguments

The reading of arguments that the command line runs with. Options are given by a long name, or by one
letter; a letter's value may follow it directly, and letters without values may be joined. `scan`
tells options and other arguments apart, and what was given for a path is looked up.
-/

namespace GraphqlRequests.Command

/-- An option: its long name with the dashes, its letter, and whether it takes a value. -/
structure OptionSpec where
  long : String
  letter : Option Char := none
  takesValue : Bool := true
  required : Bool := false
  deriving DecidableEq, Repr

def OptionSpec.label (spec : OptionSpec) : String :=
  Text.quoted spec.long ++ match spec.letter with
    | some c => " / " ++ Text.quoted (String.ofList ['-', c])
    | none => ""

/-- The options that were given, with their values, and the other arguments, both in order. -/
structure Scan where
  options : List (OptionSpec × String) := []
  others : List String := []
  deriving Repr

namespace Scan

def addOption (scan : Scan) (spec : OptionSpec) (value : String) : Scan :=
  { scan with options := scan.options ++ [(spec, value)] }

def addOthers (scan : Scan) (arguments : List String) : Scan :=
  { scan with others := scan.others ++ arguments }

end Scan

def noSuchOption (name : String) : String :=
  "No such option " ++ Text.quoted name ++ "."

def helpOption : OptionSpec := { long := "--help", takesValue := false }

def noSuchLongOption (specs : List OptionSpec) (name : String) : String :=
  noSuchOption name ++ Text.suggestion name (specs.map (·.long))

def noValue (name : String) : String :=
  "Option " ++ Text.quoted name ++ " requires an argument."

def noValueTaken (name : String) : String :=
  "Option " ++ Text.quoted name ++ " does not take a value."

def splitEquals : List Char → List Char × Option (List Char)
  | [] => ([], none)
  | '=' :: rest => ([], some rest)
  | c :: rest =>
    let (before, after) := splitEquals rest
    (c :: before, after)

/-- What an argument that starts with a dash asks for: options without values, and perhaps one whose
value is there already or comes next. -/
structure Opening where
  flags : List OptionSpec := []
  valued : Option (OptionSpec × String × Option String) := none

def letters (specs : List OptionSpec) : List Char → Except String Opening
  | [] => .ok {}
  | c :: rest =>
    let shown := String.ofList ['-', c]
    match specs.find? (·.letter = some c) with
    | none => .error (noSuchOption shown)
    | some spec =>
      if spec.takesValue then
        .ok { valued := some (spec, shown, if rest = [] then none else some (String.ofList rest)) }
      else do
        let opening ← letters specs rest
        return { opening with flags := spec :: opening.flags }

def opening (specs : List OptionSpec) (argument : List Char) : Except String Opening :=
  let (name, value) := splitEquals argument
  let shown := String.ofList name
  match specs.find? (·.long = shown) with
  | some spec =>
    if spec.takesValue then .ok { valued := some (spec, shown, value.map String.ofList) }
    else if value.isSome then .error (noValueTaken shown)
    else .ok { flags := [spec] }
  | none =>
    match argument with
    | '-' :: '-' :: _ => .error (noSuchLongOption specs shown)
    | _ => letters specs (argument.drop 1)

/-- Tell options and other arguments apart. An option whose value comes next is `awaited`; after two
dashes nothing is an option. -/
def scan (specs : List OptionSpec) (found : Scan) (awaited : Option (OptionSpec × String)) :
    List String → Except String Scan
  | [] =>
    match awaited with
    | none => .ok found
    | some (_, shown) => .error (noValue shown)
  | argument :: rest =>
    match awaited with
    | some (spec, _) => scan specs (found.addOption spec argument) none rest
    | none =>
      if argument = "--" then .ok (found.addOthers rest)
      else if argument.toList.head? ≠ some '-' ∨ argument = "-" then
        scan specs (found.addOthers [argument]) none rest
      else
        match opening specs argument.toList with
        | .error e => .error e
        | .ok opening =>
          let found := opening.flags.foldl (·.addOption · "") found
          match opening.valued with
          | none => scan specs found none rest
          | some (spec, _, some value) => scan specs (found.addOption spec value) none rest
          | some (spec, shown, none) => scan specs found (some (spec, shown)) rest

/-- The options in the order in which they are looked at: those given, by first occurrence, then the
others as listed. -/
def inOrder (specs : List OptionSpec) (scan : Scan) : List OptionSpec :=
  let given := (scan.options.map Prod.fst).eraseDups
  given ++ specs.filter (· ∉ given)

def Scan.value? (scan : Scan) (spec : OptionSpec) : Option String :=
  (scan.options.reverse.find? (·.1 = spec)).map Prod.snd

def Scan.values (scan : Scan) (spec : OptionSpec) : List String :=
  (scan.options.filter (·.1 = spec)).map Prod.snd

def unexpected (others : List String) : String :=
  "Got unexpected extra argument" ++ (if others.length = 1 then "" else "s")
    ++ " (" ++ Text.join " " others ++ ")"

/-! ### The options of the commands -/

def schemaOption : OptionSpec := { long := "--schema", letter := some 's', required := true }

def urlOption : OptionSpec := { long := "--url", letter := some 'u', required := true }

def outputOption : OptionSpec := { long := "--output", letter := some 'o', required := true }

def configOption : OptionSpec := { long := "--config", letter := some 'c' }

def layoutOption : OptionSpec := { long := "--template-dir" }

def headerOption : OptionSpec := { long := "--header", letter := some 'H' }

def verboseOption : OptionSpec := { long := "--verbose", letter := some 'v', takesValue := false }

def versionOption : OptionSpec := { long := "--version", takesValue := false }

def generateSpecs : List OptionSpec :=
  [schemaOption, outputOption, configOption, layoutOption, headerOption, verboseOption, helpOption]

def fetchSpecs : List OptionSpec :=
  [urlOption, outputOption, headerOption, verboseOption, helpOption]

def commonSpecs : List OptionSpec := [versionOption, helpOption]

def optionLine (spec : OptionSpec) : String :=
  "  " ++ (spec.letter.elim "" fun c => String.ofList ['-', c] ++ ", ") ++ spec.long
    ++ (if spec.takesValue then " TEXT" else "") ++ (if spec.required then "  [required]" else "")

def usageText (command : String) (specs : List OptionSpec) : String :=
  Text.unlines (("Usage: " ++ command ++ " [OPTIONS]") :: "" :: "Options:" :: specs.map optionLine)

def versionText : String := "gql-specgen, version 0.1.0"

def isADirectory (path : String) : String :=
  "File " ++ Text.quoted path ++ " is a directory."

def foundProblem? (spec : OptionSpec) (path : String) (found : Found) : Option String :=
  if spec = outputOption then
    if found = .entry .directory then some (isADirectory path) else none
  else if spec = configOption then
    match found with
    | .entry .directory => some (isADirectory path)
    | .entry _ => none
    | _ => some ("File " ++ Text.quoted path ++ " does not exist.")
  else if spec = layoutOption then
    match found with
    | .entry .directory => none
    | .entry _ => some ("Directory " ++ Text.quoted path ++ " is a file.")
    | _ => some ("Directory " ++ Text.quoted path ++ " does not exist.")
  else none

def isPathOption (spec : OptionSpec) : Bool :=
  spec ∈ [outputOption, configOption, layoutOption]

def optionStop? (files : Files) (scan : Scan) (spec : OptionSpec) : Option Stop :=
  match scan.value? spec with
  | none =>
    if spec.required then some (.usage ("Missing option " ++ spec.label ++ ".")) else none
  | some value =>
    if isPathOption spec && Path.isBroken value then some (.failed (.path .nullCharacter))
    else (foundProblem? spec value (files.find value)).map fun problem =>
      .usage ("Invalid value for " ++ spec.label ++ ": " ++ problem)

def checkedScan (command : String) (files : Files) (specs : List OptionSpec)
    (arguments : List String) : Except Stop Scan := do
  let found ← (scan specs {} none arguments).mapError .usage
  if (found.value? helpOption).isSome then throw (.information (usageText command specs))
  match (inOrder specs found).findSome? (optionStop? files found) with
  | some stop => throw stop
  | none =>
    if found.others = [] then return found else throw (.usage (unexpected found.others))

/-! ### Invocations -/

def Scan.generateOptions (scan : Scan) : GenerateOptions where
  schema := (scan.value? schemaOption).getD ""
  output := (scan.value? outputOption).getD ""
  config := scan.value? configOption
  layouts := scan.value? layoutOption
  headers := scan.values headerOption
  verbose := (scan.value? verboseOption).isSome

def Scan.fetchOptions (scan : Scan) : FetchOptions where
  url := (scan.value? urlOption).getD ""
  output := (scan.value? outputOption).getD ""
  headers := scan.values headerOption
  verbose := (scan.value? verboseOption).isSome

def commands : List String := ["generate", "fetch"]

def commandStop (argument : String) : Stop :=
  let unknown := "No such command " ++ Text.quoted argument ++ "."
    ++ Text.suggestion argument commands
  if argument.toList.head? = some '-' && argument ≠ "-" then
    match opening commonSpecs argument.toList with
    | .error problem => .usage problem
    | .ok found =>
      .information (if versionOption ∈ found.flags then versionText
        else usageText "COMMAND" commonSpecs)
  else .usage unknown

def named (files : Files) : List String → Except Stop Invocation
  | "generate" :: arguments => do
    return .generate (← checkedScan "generate" files generateSpecs arguments).generateOptions
  | "fetch" :: arguments => do
    return .fetch (← checkedScan "fetch" files fetchSpecs arguments).fetchOptions
  | [] => .error (.usage "Missing command.")
  | argument :: _ => .error (commandStop argument)

/-- The command that the arguments name. Two dashes may stand before it. -/
def invocation (files : Files) : List String → Except Stop Invocation
  | [] => .error .noCommand
  | "--" :: arguments => named files arguments
  | arguments => named files arguments

end GraphqlRequests.Command
