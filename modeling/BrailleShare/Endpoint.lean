import BrailleShare.Text.Blank
import BrailleShare.Text.Numeral
import BrailleShare.Text.Quoted

/-!
# Endpoints

Where clients can connect, and the list in which these places are given. The entries of a list are
separated by plus signs; blanks around an entry and empty entries do not count. An entry is a host
and a number with a colon between them: without a host it is a socket in a directory, with the
number for its name; with a host it is a TCP socket, whose number is counted from a fixed one on. A
missing number is zero. An address that has colons of its own may stand between brackets, and has to
if a number follows it.
-/

namespace BrailleShare

/-- A place where clients can connect. -/
inductive Endpoint where
  | tcp (host : String) (portNumber : Nat)
  | socket (path : String)
  deriving DecidableEq, Repr

/-- Why a list of endpoints was refused. -/
inductive EndpointError where
  /-- An entry whose number is no number, or too great. -/
  | invalid (entry : String)
  | tooMany (count : Nat)
  deriving DecidableEq, Repr

namespace Endpoint

/-- The TCP number that belongs to the number zero of the list. -/
def basePort : Nat := 4101

/-- The greatest TCP number. -/
def maxPort : Nat := 65535

/-- How many endpoints there may be. -/
def maxCount : Nat := 4

/-- An endpoint in words. An address with colons is put between brackets. -/
def text : Endpoint → String
  | tcp host portNumber =>
    if host.toList.contains ':' then s!"[{host}]:{portNumber}" else s!"{host}:{portNumber}"
  | socket path => path

/-- The path of an entry in a directory. -/
def joinPath (dir name : String) : String :=
  if dir.toList.isEmpty || dir.toList.getLast? == some '/' then dir ++ name else dir ++ "/" ++ name

/-! ## Splitting -/

/-- The parts of a text between separators. -/
def splitOn (sep : Char) : List Char → List (List Char)
  | [] => [[]]
  | c :: cs =>
    if c = sep then [] :: splitOn sep cs
    else
      match splitOn sep cs with
      | part :: parts => (c :: part) :: parts
      | [] => [[c]]

/-- What lies before and behind the last separator of a text. -/
def splitLast? (sep : Char) : List Char → Option (List Char × List Char)
  | [] => none
  | c :: cs =>
    match splitLast? sep cs with
    | some (front, back) => some (c :: front, back)
    | none => if c = sep then some ([], cs) else none

/-- The entries of a list, without blanks around them; empty ones are left out. -/
def entries (list : List Char) : List (List Char) :=
  ((splitOn '+' list).map Text.trim).filter (· ≠ [])

/-! ## Reading -/

/-- The host and the number of an entry. A colon separates the number only if the host before it has
none or is closed by a bracket. -/
def hostAndNumber (entry : List Char) : List Char × List Char :=
  match splitLast? ':' entry with
  | some (host, number) =>
    if host.contains ':' && host.getLast? != some ']' then (entry, ['0']) else (host, number)
  | none => (entry, ['0'])

/-- A host without opening brackets before and closing brackets behind it. -/
def bare (host : List Char) : List Char :=
  ((host.dropWhile (· == '[')).reverse.dropWhile (· == ']')).reverse

/-- Reads one entry. -/
def ofEntry (dir : String) (entry : List Char) : Except EndpointError Endpoint :=
  let (host, number) := hostAndNumber entry
  match Text.numeral? maxPort number with
  | none => .error (.invalid (String.ofList entry))
  | some n =>
    if host = [] then .ok (socket (joinPath dir (toString n)))
    else if basePort + n ≤ maxPort then .ok (tcp (String.ofList (bare host)) (basePort + n))
    else .error (.invalid (String.ofList entry))

/-- Reads a list of endpoints; sockets lie in the given directory. A faulty entry counts for more
than too many of them. -/
def parseList (list dir : String) : Except EndpointError (List Endpoint) := do
  let endpoints ← (entries list.toList).mapM (ofEntry dir)
  if maxCount < endpoints.length then .error (.tooMany endpoints.length) else return endpoints

/-! ## Listening -/

/-- Whether listening that failed with this error of the system may succeed later: the address is in
use, it is not there yet, or the file system cannot be written to yet. -/
def mayListenLater (errno : Nat) : Bool :=
  errno == 98 || errno == 99 || errno == 30

end Endpoint

/-- The refusal in words. -/
def EndpointError.message : EndpointError → String
  | .invalid entry => s!"invalid endpoint {Text.quoted entry}"
  | .tooMany count =>
    s!"{count} endpoints given, at most {Endpoint.maxCount} are supported"

end BrailleShare
