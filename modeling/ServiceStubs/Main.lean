import ServiceStubs.Command.Run

/-!
# The program

Runs the command line on the files of the machine.
-/

namespace ServiceStubs

/-- The result of an operation on files, or `other` if it does not succeed. -/
def orElseValue {α : Type} (other : α) (operation : IO α) : IO α :=
  tryCatch operation fun _ => return other

/-- Whether an operation on files succeeds. -/
def succeeds (operation : IO Unit) : IO Bool :=
  orElseValue false do
    operation
    return true

/-- What is at a path of the machine. Nothing is at the empty path. -/
def kindOnDisk? (path : String) : IO (Option EntryKind) := do
  if path = "" then return none
  else
    let place := (← IO.currentDir) / path
    if ← place.isDir then return some .directory
    else if ← place.pathExists then return some .file
    else return none

/-- The files of the machine. -/
instance : FileStore IO where
  kind? := kindOnDisk?
  readText? path := orElseValue none (some <$> IO.FS.readFile path)
  names? path := orElseValue none do
    if path = "" then return none
    else
      let found ← ((← IO.currentDir) / path).readDir
      return some (found.toList.map (·.fileName))
  makeDirectories path := succeeds (IO.FS.createDirAll path)
  writeText path text := succeeds (IO.FS.writeFile path text)
  removeDirectory path := succeeds (IO.FS.removeDirAll path)
  rename path target := succeeds (IO.FS.rename path target)

/-- How the program is called. -/
def usage : String :=
  "Usage: rpcgen [-v] generate [--config PATH] [-l LANGUAGE -o DIR]... [--summary PATH]\n" ++
  "       rpcgen [-v] summary [--config PATH]\n" ++
  "       rpcgen [-v] link --url URL DIR\n"

end ServiceStubs

open ServiceStubs in
/-- Runs the command line. -/
def main (words : List String) : IO UInt32 := do
  let config := (← IO.getEnv "RPCGEN_CONFIG").getD standardConfig
  let outcome ← runCommandLine config words
  IO.print outcome.output
  match outcome with
  | .misused => IO.eprint usage
  | _ =>
    if let some line := outcome.errorLine? then IO.eprintln line
  return outcome.code.toUInt32
