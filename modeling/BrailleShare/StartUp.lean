import BrailleShare.CommandLine
import BrailleShare.Configuration
import BrailleShare.Driver.Virtual
import BrailleShare.Endpoint
import BrailleShare.Server
import BrailleShare.Text.Line
import BrailleShare.Text.Tame

/-!
# Start-up

What happens before the first client is let in. The configuration file is read, options override
what it sets, and the whole is checked; then come the key, the list of endpoints and the driver. The
first thing that is wrong ends the start with a report.

Files are read through a function of the caller's, in a monad of the caller's: a program reads them
from its disk, a rehearsal from memory.
-/

namespace BrailleShare

/-- Why a start failed: what could not be done, and the reasons behind it, the nearest first. -/
structure Report where
  failure : String
  causes : List String
  deriving DecidableEq, Repr

namespace Report

/-- A reason with something in front of it, its further lines set in as far as the first. -/
def indented (front cause : String) : String :=
  let margin := String.ofList (List.replicate front.length ' ')
  front ++ ("\n" ++ margin).intercalate (cause.splitOn "\n")

/-- The reasons, each on lines of its own, numbered if there are several. -/
def causeLines : List String → List String
  | [] => []
  | [cause] => [indented "    " cause]
  | causes => causes.zipIdx.map fun (cause, i) => indented s!"    {i}: " cause

/-- The report as it is printed. -/
def text (r : Report) : String :=
  let head := s!"Error: {r.failure}\n"
  if r.causes.isEmpty then head
  else head ++ "\nCaused by:\n" ++ String.join ((causeLines r.causes).map (· ++ "\n"))

end Report

/-- Everything a server needs to start. -/
structure Plan where
  settings : Settings
  driver : VirtualDisplay
  endpoints : List Endpoint
  configuration : Configuration

namespace StartUp

/-- The name under which the program tells its version. -/
def programName : String := "brlapi-server"

/-- The version. -/
def version : String := "0.1.0"

/-- What the program tells when it is asked for its version. -/
def versionLine : String := s!"{programName} {version}"

/-- The configuration file that is read if none is named. -/
def defaultConfig : String := "/etc/brlapi-server.toml"

/-- Seconds in the unit in which a server counts time. -/
def nanoseconds (seconds : Nat) : Nat := seconds * 1000000000

/-- The configuration with the options of the command line put over it. -/
def override (options : CommandLine.Given) (c : Configuration) : Configuration :=
  let value (o : OptionName) (set : String) : String := (CommandLine.value? options o).getD set
  { c with
    listen :=
      { c.listen with
        hosts := value .hosts c.listen.hosts
        keyFile := value .authKey c.listen.keyFile
        logLevel := value .logLevel c.listen.logLevel } }

/-- A step that failed, as a report. -/
def reporting {ε α : Type} (failure : String) (chain : ε → List String) :
    Except ε α → Except Report α
  | .ok a => .ok a
  | .error e => .error ⟨failure, chain e⟩

/-- The driver of a given name. -/
def driverOf (d : DisplaySection) : Except Report VirtualDisplay :=
  if d.driver = "virtual" then
    .ok (VirtualDisplay.new ⟨UInt32.ofNat d.columns, UInt32.ofNat d.rows⟩)
  else .error ⟨s!"unknown braille driver {Text.quoted d.driver}", []⟩

/-- The configuration: the file, the options over it, and the checks. -/
def configure (options : CommandLine.Given) (path : String) (file : Except FileError Octets) :
    Except Report Configuration := do
  let c ← reporting s!"failed to load config {path}" ConfigurationFault.chain
    (Configuration.ofFile path file)
  let c := override options c
  reporting "invalid configuration" ConfigurationFault.chain c.validate
  return c

/-- The plan that a configuration and the contents of the key file lead to. -/
def planFor (c : Configuration) (keyFile : Except FileError Octets) : Except Report Plan := do
  let key ← reporting s!"failed to load authentication key {c.listen.keyFile}"
    ConfigurationFault.chain (keyOfFile c.listen.keyFile keyFile)
  let endpoints ← reporting s!"invalid host list {Text.quoted c.listen.hosts}"
    (fun e => [EndpointError.message e]) (Endpoint.parseList c.listen.hosts c.listen.socketDir)
  let driver ← driverOf c.display
  return {
    settings := ⟨key, c.limits.maxWaiting, nanoseconds c.limits.loginSeconds, c.limits.maxTtys⟩
    driver
    endpoints
    configuration := c }

/-- Reads a file, unless its path is none that could be asked for. -/
def fetch {m : Type → Type} [Monad m] (readFile : String → m (Except FileError Octets))
    (path : String) : m (Except FileError Octets) :=
  if path.toList.contains '\x00' then pure (.error .holdsZero) else readFile path

/-- Gets everything ready that a server needs. -/
def plan {m : Type → Type} [Monad m] (readFile : String → m (Except FileError Octets))
    (options : CommandLine.Given) : m (Except Report Plan) := do
  let path := (CommandLine.value? options .config).getD defaultConfig
  match configure options path (← fetch readFile path) with
  | .error r => return .error r
  | .ok c => return planFor c (← fetch readFile c.listen.keyFile)

/-- The endpoints as they are told to the log, up to the end of the line. -/
def describe (endpoints : List Endpoint) : String :=
  Text.tame (Text.firstLine (", ".intercalate (endpoints.map Endpoint.text)))

/-- What a run of the program comes to, up to the point where it waits for clients. -/
inductive Ending where
  /-- The server runs. -/
  | started (plan : Plan)
  /-- The start failed. -/
  | failed (report : Report)
  | toldVersion
  | toldHelp
  | misused

/-- The status that the program ends with, if it ends. -/
def Ending.status? : Ending → Option Nat
  | .started _ => none
  | .failed _ => some 1
  | .toldVersion | .toldHelp => some 0
  | .misused => some 2

/-- Runs the program up to the point where it waits for clients. -/
def run {m : Type → Type} [Monad m] (readFile : String → m (Except FileError Octets))
    (env : String → Option String) (words : List String) : m Ending := do
  match CommandLine.read words env with
  | .version => return .toldVersion
  | .help => return .toldHelp
  | .misuse => return .misused
  | .run options =>
    match ← plan readFile options with
    | .ok p => return .started p
    | .error r => return .failed r

end StartUp

end BrailleShare
