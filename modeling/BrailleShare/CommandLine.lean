/-!
# The command line

Four options, each with a value, and two flags that only tell something. Every option may also be
set in the environment; the command line comes first. A flag acts as soon as it is met, so what
follows it is not looked at, while a mistake before it is a mistake. Paths may not be empty.
-/

namespace BrailleShare

/-- The options of the command line. -/
inductive OptionName where
  | config
  | hosts
  | authKey
  | logLevel
  deriving DecidableEq, Repr

namespace OptionName

/-- The option's name on the command line, behind its two dashes. -/
def long : OptionName → String
  | config => "config"
  | hosts => "hosts"
  | authKey => "auth-key"
  | logLevel => "log-level"

/-- The option's name in the environment. -/
def inEnvironment : OptionName → String
  | config => "BRLAPI_CONFIG"
  | hosts => "BRLAPI_HOSTS"
  | authKey => "BRLAPI_AUTH_KEY"
  | logLevel => "BRLAPI_LOG_LEVEL"

/-- What the option sets. -/
def meaning : OptionName → String
  | config => "TOML configuration file; if there is none nothing is set"
  | hosts => "endpoints with plus signs between them"
  | authKey => "file that holds the key"
  | logLevel => "least level that is logged"

/-- Every option once. -/
def all : List OptionName := [config, hosts, authKey, logLevel]

/-- The option of a name on the command line. -/
def ofLong? (name : String) : Option OptionName :=
  all.find? fun o => o.long == name

/-- Whether an option may have a value: a path has to name something. -/
def allows (o : OptionName) (value : String) : Bool :=
  match o with
  | config | authKey => value ≠ ""
  | hosts | logLevel => true

end OptionName

namespace CommandLine

/-- The options that were given, with their values. -/
abbrev Given := List (OptionName × String)

/-- What a command line asks for. -/
inductive Request where
  /-- To run with these options. -/
  | run (options : Given)
  /-- To tell the version. -/
  | version
  /-- To tell what the options are. -/
  | help
  /-- Nothing that can be understood. -/
  | misuse
  deriving DecidableEq, Repr

/-- The value that was given for an option. -/
def value? (options : Given) (o : OptionName) : Option String :=
  (options.find? fun g => g.1 == o).map (·.2)

/-- Adds an option, which may be given only once and only with a value that it allows. -/
def give? (options : Given) (o : OptionName) (value : String) : Option Given :=
  if (value? options o).isNone && o.allows value then some (options ++ [(o, value)]) else none

/-- Whether a word is taken for an option and not for a value: it begins with a dash and goes on. -/
def looksLikeOption (word : String) : Bool :=
  match word.toList with
  | '-' :: _ :: _ => true
  | _ => false

/-- What flags behind a single dash ask for: the first decides. -/
def flag? (word : List Char) : Option Request :=
  match word with
  | 'V' :: _ => some .version
  | 'h' :: _ => some .help
  | _ => none

/-- A word behind two dashes: the name, and the value behind an equals sign if there is one. -/
def splitLong (word : List Char) : String × Option String :=
  match word.dropWhile (· != '=') with
  | [] => (String.ofList word, none)
  | _ :: value => (String.ofList (word.takeWhile (· != '=')), some (String.ofList value))

/-- Reads words one by one, with the options that were given before them. -/
def readWith (options : Given) : List String → Request
  | [] => .run options
  | word :: rest =>
    match word.toList with
    | ['-', '-'] => if rest.isEmpty then .run options else .misuse
    | '-' :: '-' :: long =>
      match splitLong long with
      | ("version", none) => .version
      | ("help", none) => .help
      | (name, value) =>
        match OptionName.ofLong? name, value, rest with
        | some o, some value, rest =>
          match give? options o value with
          | some options => readWith options rest
          | none => .misuse
        | some o, none, value :: rest =>
          if looksLikeOption value then .misuse
          else
            match give? options o value with
            | some options => readWith options rest
            | none => .misuse
        | _, _, _ => .misuse
    | '-' :: flags => (flag? flags).getD .misuse
    | _ => .misuse

/-- Adds what the environment sets and the command line does not. -/
def addEnvironment (env : String → Option String) (options : Given) : Option Given :=
  OptionName.all.foldlM (fun options o =>
    match value? options o, env o.inEnvironment with
    | none, some value => give? options o value
    | _, _ => some options) options

/-- Reads a command line. -/
def read (words : List String) (env : String → Option String) : Request :=
  match readWith [] words with
  | .run options =>
    match addEnvironment env options with
    | some options => .run options
    | none => .misuse
  | r => r

/-! ## Telling -/

/-- How the program is called. -/
def usage (program : String) : String :=
  s!"Usage: {program} [OPTIONS]"

/-- What the options are, one to a line. -/
def help (program : String) : String :=
  let line (o : OptionName) := s!"  --{o.long} <VALUE>  {o.meaning} [env: {o.inEnvironment}]"
  "\n".intercalate
    (usage program :: "" :: "Options:" :: OptionName.all.map line ++
      ["  -h, --help  tell what the options are", "  -V, --version  tell the version"])

end CommandLine

end BrailleShare
