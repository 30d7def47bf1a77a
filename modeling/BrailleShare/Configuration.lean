import BrailleShare.Charset.Unicode
import BrailleShare.Files
import BrailleShare.Toml.Document

/-!
# Configuration

What can be set in the configuration file: three sections, each with a value for everything that is
not set. A section may be written as a table with its keys, or as an array with its values in order;
what it does not know it ignores. No file at all means that nothing is set.
-/

namespace BrailleShare

/-! ## Settings -/

/-- Where to listen, and how clients log in. -/
structure ListenSection where
  /-- The list of endpoints. -/
  hosts : String := ":0+127.0.0.1:0"
  /-- The file that holds the key. -/
  keyFile : String := "/etc/brlapi.key"
  /-- The directory of the sockets. -/
  socketDir : String := "/var/lib/BrlAPI"
  /-- The name of the least level that is logged. -/
  logLevel : String := "info"
  deriving DecidableEq, Repr

/-- Limits and times. -/
structure LimitSection where
  /-- How many connections may wait to log in. -/
  maxWaiting : Nat := 5
  /-- How many seconds a connection may wait to log in. -/
  loginSeconds : Nat := 30
  /-- How many milliseconds lie between two output cycles. -/
  pollMilliseconds : Nat := 40
  /-- How many milliseconds lie between two attempts to listen. -/
  retryMilliseconds : Nat := 1000
  /-- How many ttys there may be. -/
  maxTtys : Nat := 4096
  deriving DecidableEq, Repr

/-- The display. -/
structure DisplaySection where
  /-- The name of the driver. -/
  driver : String := "virtual"
  columns : Nat := 40
  rows : Nat := 1
  deriving DecidableEq, Repr

/-- Everything that can be set. -/
structure Configuration where
  listen : ListenSection := {}
  limits : LimitSection := {}
  display : DisplaySection := {}
  deriving DecidableEq, Repr

/-- A setting that was understood but cannot be used. -/
inductive UnusableSetting where
  | displaySize
  | maxWaiting
  | pollInterval
  deriving DecidableEq, Repr

/-- The setting in words. -/
def UnusableSetting.message : UnusableSetting → String
  | displaySize => "display.columns and display.rows must be positive"
  | maxWaiting => "limits.unauth_max must be positive"
  | pollInterval => "limits.poll_interval_ms must be positive"

/-- Why there is no configuration, or no key. -/
inductive ConfigurationFault where
  | file (path : String) (e : FileError)
  /-- The file is no TOML document, or a setting has a value of another kind. -/
  | notUnderstood
  | emptyKey (path : String)
  | unusable (setting : UnusableSetting)
  deriving DecidableEq, Repr

namespace ConfigurationFault

/-- The reason in words. -/
def message : ConfigurationFault → String
  | file path e => s!"I/O error accessing {path}: {e.message}"
  | notUnderstood => "failed to parse config TOML: not a usable document"
  | emptyKey path => s!"authentication key file {path} is empty"
  | unusable setting => s!"invalid configuration: {setting.message}"

/-- The reason and what lies behind it, the nearest first. -/
def chain : ConfigurationFault → List String
  | file path e => [(file path e).message, e.message]
  | notUnderstood => [notUnderstood.message, "not a usable document"]
  | e => [e.message]

end ConfigurationFault

namespace Configuration

/-! ## Reading sections -/

open Toml (Value Entries)

/-- How the settings of a section are looked up: by name, or by place. -/
abbrev Section := String → Nat → Option Value

/-- What is set in a section. A date is a table without a key that means anything. -/
def section? : Value → Option Section
  | .table _ es => some fun name _ => Entries.get? es name
  | .array items => some fun _ i => items[i]?
  | .tables front last =>
    some fun _ i => (front ++ [.table .header last])[i]?
  | .datetime => some fun _ _ => none
  | _ => none

/-- A setting that is a text. -/
def text? (s : Section) (name : String) (place : Nat) (unset : String) : Option String :=
  match s name place with
  | none => some unset
  | some (.string t) => some t
  | some _ => none

/-- A setting that is a number from zero to a limit. -/
def number? (s : Section) (limit : Nat) (name : String) (place unset : Nat) : Option Nat :=
  match s name place with
  | none => some unset
  | some (.integer n) => if 0 ≤ n ∧ n ≤ (limit : Int) then some n.toNat else none
  | some _ => none

/-- The greatest number of 32 bits. -/
def max32 : Nat := 4294967295

/-- The greatest number of 64 bits. -/
def max64 : Nat := 18446744073709551615

/-- Reads where to listen. -/
def listen? (s : Section) : Option ListenSection := do
  let unset : ListenSection := {}
  let hosts ← text? s "hosts" 0 unset.hosts
  let keyFile ← text? s "auth_key_path" 1 unset.keyFile
  let socketDir ← text? s "socket_dir" 2 unset.socketDir
  let logLevel ← text? s "log_level" 3 unset.logLevel
  return ⟨hosts, keyFile, socketDir, logLevel⟩

/-- Reads limits and times. -/
def limits? (s : Section) : Option LimitSection := do
  let unset : LimitSection := {}
  let maxWaiting ← number? s max64 "unauth_max" 0 unset.maxWaiting
  let loginSeconds ← number? s max64 "unauth_timeout_secs" 1 unset.loginSeconds
  let pollMilliseconds ← number? s max64 "poll_interval_ms" 2 unset.pollMilliseconds
  let retryMilliseconds ← number? s max64 "bind_retry_ms" 3 unset.retryMilliseconds
  let maxTtys ← number? s max64 "max_ttys" 4 unset.maxTtys
  return ⟨maxWaiting, loginSeconds, pollMilliseconds, retryMilliseconds, maxTtys⟩

/-- Reads what the display is like. -/
def display? (s : Section) : Option DisplaySection := do
  let unset : DisplaySection := {}
  let driver ← text? s "driver" 0 unset.driver
  let columns ← number? s max32 "columns" 1 unset.columns
  let rows ← number? s max32 "rows" 2 unset.rows
  return ⟨driver, columns, rows⟩

/-- Reads a section of a document, if it is there. -/
def sectionOr {α : Type} (es : Entries) (name : String) (unset : α) (read : Section → Option α) :
    Option α :=
  match Entries.get? es name with
  | none => some unset
  | some v => (section? v).bind read

/-- Reads a document. -/
def ofDocument? (es : Entries) : Option Configuration := do
  let listen ← sectionOr es "server" {} listen?
  let limits ← sectionOr es "limits" {} limits?
  let display ← sectionOr es "display" {} display?
  return ⟨listen, limits, display⟩

/-- Reads the text of a configuration file. -/
def ofText (text : List Char) : Except ConfigurationFault Configuration :=
  match (Toml.document? text).bind ofDocument? with
  | some c => .ok c
  | none => .error .notUnderstood

/-- Reads what came of an attempt to read the configuration file. -/
def ofFile (path : String) (file : Except FileError Octets) :
    Except ConfigurationFault Configuration :=
  match file with
  | .error .notFound => .ok {}
  | .error e => .error (.file path e)
  | .ok bs =>
    match Charset.utf8? bs with
    | none => .error (.file path .notText)
    | some text => ofText text

/-! ## Checks -/

/-- Refuses settings that a server cannot run with. -/
def validate (c : Configuration) : Except ConfigurationFault Unit :=
  if c.display.columns = 0 ∨ c.display.rows = 0 then .error (.unusable .displaySize)
  else if c.limits.maxWaiting = 0 then .error (.unusable .maxWaiting)
  else if c.limits.pollMilliseconds = 0 then .error (.unusable .pollInterval)
  else .ok ()

end Configuration

/-! ## The key -/

/-- The key in a key file: all of it, but for the end of a line after it. There has to be one. -/
def keyOfFile (path : String) (file : Except FileError Octets) : Except ConfigurationFault Octets :=
  match file with
  | .error e => .error (.file path e)
  | .ok bs =>
    let key := if bs.getLast? = some 10 then bs.dropLast else bs
    if key = [] then .error (.emptyKey path) else .ok key

end BrailleShare
