import GraphqlRequests.Command

/-!
# The command line

Reads the files that the arguments mention, runs the command, prints what it prints and writes what
it writes. No transport is built in, so an endpoint is never reached.
-/

namespace GraphqlRequests.Command

/-- What stands at a path. What is there but cannot be read at all counts as a directory. -/
def readEntry (path : String) : IO (Option Entry) := do
  try
    return some (.file (← IO.FS.readFile path))
  catch
    | .noFileOrDirectory .. => return none
    | .userError _ => return some .binary
    | _ => return some .directory

def readFiles (paths : List String) : IO Files := do
  let entries ← (paths.flatMap Path.along).mapM fun path =>
    return (← readEntry path).map (Path.resolve path, ·)
  return entries.filterMap id

def writeFile (path text : String) : IO Unit := do
  IO.FS.createDirAll (Path.parent path)
  IO.FS.writeFile path text

end GraphqlRequests.Command

open GraphqlRequests Command in
def main (arguments : List String) : IO UInt32 := do
  let directory := toString (← IO.currentDir)
  let files ← readFiles (mentioned arguments)
  let (outcome, world) := execute directory { files, connection := { replies := [] } } arguments
  for line in world.printed do
    IO.println line
  if let some (path, text) := world.written then
    writeFile path text
  let raised := outcome.raised.map fun failure => failure.message?.getD "The schema is not usable"
  if let some text := outcome.error <|> raised <|> outcome.layoutProblem then
    IO.eprintln ("Error: " ++ text)
  return outcome.exitCode.toUInt32
