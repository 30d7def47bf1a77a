import BrailleShare.StartUp

/-!
# The program

Carries out what `StartUp` decides: reads the files and the variables that it asks for, prints what
the start comes to, and ends with its status. Letting clients in is left to whoever runs the server.
-/

namespace BrailleShare.Program

/-- The reason for a failed attempt to read a file. The system's number may come negated. -/
def fileError : IO.Error → FileError
  | .noFileOrDirectory .. => .notFound
  | .permissionDenied .. => .denied
  | .inappropriateType _ code _ => if code = 20 ∨ 0 - code = 20 then .notDirectory else .isDirectory
  | .invalidArgument _ 36 _ | .invalidArgument _ 4294967260 _ => .nameTooLong
  | e => .other (toString e)

/-- Reads a file of the system. -/
def readFile (path : String) : IO (Except FileError Octets) := do
  match ← (IO.FS.readBinFile path).toBaseIO with
  | .ok contents => return .ok contents.toList
  | .error e => return .error (fileError e)

/-- The options that are set in the environment. -/
def readEnvironment : IO (List (String × String)) :=
  OptionName.all.filterMapM fun o =>
    return (← IO.getEnv o.inEnvironment).map fun value => (o.inEnvironment, value)

end BrailleShare.Program

open BrailleShare in
/-- Runs the program. -/
def main (words : List String) : IO UInt32 := do
  let set ← Program.readEnvironment
  let ending ← StartUp.run Program.readFile (set.lookup ·) words
  match ending with
  | .started plan => IO.println s!"serving at {StartUp.describe plan.endpoints}"
  | .failed report => IO.eprint report.text
  | .toldVersion => IO.println StartUp.versionLine
  | .toldHelp => IO.println (CommandLine.help StartUp.programName)
  | .misused => IO.eprintln (CommandLine.usage StartUp.programName)
  return UInt32.ofNat (ending.status?.getD 0)
