import CursorPaging.Program

/-!
# The executable

Reads what a run needs from the computer, runs the program, and writes its report. There is no
network in this build: every connection is refused.
-/

namespace CursorPaging.Executable

/-- The cause of a failure to read a file. -/
def fileError : IO.Error → FileError
  | .noFileOrDirectory .. => .notFound
  | .permissionDenied .. => .accessDenied
  | .inappropriateType .. => .isDirectory
  | .userError .. => .notText
  | _ => .notFound

/-- Reads a file. -/
def readText (path : String) : IO (Except FileError String) := do
  try return .ok (← IO.FS.readFile path)
  catch e => return .error (fileError e)

/-- The file that the arguments name, and what is in it. -/
def configFile (args : List String) : IO (Option (String × Except FileError String)) := do
  match CommandLine.parse args with
  | .ok i =>
    match i.config with
    | some path => return some (path, ← readText path)
    | none => return none
  | .error _ => return none

/-- The value of the environment variable that a configuration file names. -/
def tokenVariable (file : Except FileError String) : IO (Option (String × String)) := do
  match file with
  | .error _ => return none
  | .ok text =>
    match Config.read text with
    | .error _ => return none
    | .ok c =>
      match c.accessTokenEnv with
      | none => return none
      | some name => return (← IO.getEnv name).map fun value => (name, value)

/-- The files that a run can read: only the one that was read before. -/
def onlyFile (file : Option (String × Except FileError String)) : Files := fun path =>
  match file with
  | some (name, content) => if name = path then content else .error .notFound
  | none => .error .notFound

/-- The environment that a run can read: only the variable that was read before. -/
def onlyVariable (entry : Option (String × String)) : Environment := fun name =>
  match entry with
  | some (name', value) => if name' = name then some value else none
  | none => none

end CursorPaging.Executable

open CursorPaging CursorPaging.Executable

/-- Runs the program on the arguments of the command line and on standard input. -/
def main (args : List String) : IO UInt32 := do
  let file ← configFile args
  let entry ← match file with
    | some (_, content) => tokenVariable content
    | none => pure none
  let input ← (← IO.getStdin).readToEnd
  let host : Session.Host := ⟨onlyVariable entry, onlyFile file, 0⟩
  let report := Program.run host Http.Network.unplugged () 0 args input
  for line in report.output do IO.println line
  for line in report.errors do IO.eprintln line
  return report.exitCode.toUInt32
