import ServerTelemetry.Configuration.Schema
import ServerTelemetry.Net.Address
import ServerTelemetry.Startup
import ServerTelemetry.Value.Json

/-!
# The command line

A program that starts telemetry for a server, or prints the schema of configurations. Its options
are `-c` or `--config` with a file, `--listen` with an address, `--schema`, `--help` and
`--version`; the file and the address may come from the environment instead. An option may be given
once. The value of an option may be joined to it.

Arguments are read from left to right. The value of an option is looked at when the next option is
met, or at the end; so it is not looked at if what comes next is no option at all. The environment
comes last.
-/

namespace ServerTelemetry.CommandLine

open Text

/-- An option with a value. -/
inductive ValueOption where
  | config
  | listen
  deriving DecidableEq, Repr

/-- The variable that may have the value instead. -/
def ValueOption.variableName : ValueOption → Text
  | config => "WEBTRACE_CONFIG_PATH".toList
  | listen => "WEBTRACE_LISTEN".toList

/-- An option without a value. -/
inductive Flag where
  | help
  | version
  | schema
  deriving DecidableEq, Repr

/-- Why arguments are refused. -/
inductive UsageError where
  | unexpected
  /-- An option that takes no value has one. -/
  | unexpectedValue
  | repeated
  /-- An option lacks its value, or a file has no name. -/
  | valueMissing
  | notAnAddress
  deriving DecidableEq, Repr

/-- The wording of the error. -/
def UsageError.message : UsageError → Text
  | unexpected => "error: unexpected argument found".toList
  | unexpectedValue => "error: unexpected value for an argument found".toList
  | repeated =>
    ("error: an argument cannot be used with one or more of the other specified "
      ++ "arguments").toList
  | valueMissing => "error: one of the values isn't valid for an argument".toList
  | notAnAddress => "error: invalid value for one of the arguments".toList

/-- What the program is to do. -/
inductive Command where
  | help
  | version
  /-- Print the schema of configurations. -/
  | schema
  /-- Serve at an address, with a configuration file or without. -/
  | serve (config : Option Text) (listen : SocketAddress)
  deriving DecidableEq, Repr

/-! ## Single arguments -/

/-- What a single argument is. -/
inductive Argument where
  /-- An option without a value, and whether a value is joined to it all the same. -/
  | flag (flag : Flag) (joined : Bool)
  /-- An option with the value that is joined to it, if one is. -/
  | option (option : ValueOption) (value : Option Text)
  /-- Two dashes, after which there are no options. -/
  | separator
  /-- No option, so that it may be the value of one. -/
  | word
  | unknown
  deriving DecidableEq, Repr

namespace Argument

/-- A long option: its name, and what follows the equals sign. -/
def readLong (s : Text) : Argument :=
  let (name, value) := match cut '=' s with
    | some (name, value) => (name, some value)
    | none => (s, none)
  match String.ofList name with
  | "help" => flag .help value.isSome
  | "version" => flag .version value.isSome
  | "schema" => flag .schema value.isSome
  | "config" => option .config value
  | "listen" => option .listen value
  | _ => unknown

/-- What a single argument is. -/
def read : Text → Argument
  | ['-', '-'] => separator
  | '-' :: '-' :: s => readLong s
  | '-' :: 'h' :: _ => flag .help false
  | '-' :: 'V' :: _ => flag .version false
  | ['-', 'c'] => option .config none
  | '-' :: 'c' :: '=' :: value => option .config (some value)
  | '-' :: 'c' :: value => option .config (some value)
  | '-' :: _ :: _ => unknown
  | _ => word

end Argument

/-! ## All arguments -/

/-- The options so far. -/
structure Options where
  config : Option Text := none
  listen : Option SocketAddress := none
  /-- Whether the schema is asked for. -/
  schema : Bool := false
  deriving DecidableEq, Repr

namespace Options

/-- Whether an option has its value. -/
def has (o : Options) : ValueOption → Bool
  | .config => o.config.isSome
  | .listen => o.listen.isSome

/-- Gives an option its value. -/
def set (o : Options) : ValueOption → Text → Except UsageError Options
  | .config, [] => .error .valueMissing
  | .config, path => .ok { o with config := some path }
  | .listen, value =>
    match SocketAddress.read value with
    | some address => .ok { o with listen := some address }
    | none => .error .notAnAddress

/-- Gives an option the value that the arguments have for it. -/
def put (o : Options) (option : ValueOption) (value : Option Text) : Except UsageError Options :=
  match value with
  | none => .error .valueMissing
  | some value => if o.has option then .error .repeated else o.set option value

/-- Gives an option the value of its variable, if it has none yet. -/
def complete (vars : Text → Option Text) (o : Options) (option : ValueOption) :
    Except UsageError Options :=
  match vars option.variableName with
  | some value => if o.has option then .ok o else o.set option value
  | none => .ok o

/-- The address to listen on unless one is given. -/
def standardListen : SocketAddress :=
  ⟨.v4 127 0 0 1, 3000, 0⟩

/-- What the options ask for. -/
def command (o : Options) : Command :=
  if o.schema then .schema else .serve o.config (o.listen.getD standardListen)

end Options

/-- An option whose value has not been looked at, with the value if it is there. -/
abbrev Pending := Option (ValueOption × Option Text)

/-- Looks at the value that has not been looked at. -/
def settle (o : Options) (pending : Pending) : Except UsageError Options :=
  match pending with
  | some (option, value) => o.put option value
  | none => .ok o

/-- Reads arguments, up to one that is answered at once. -/
def readArguments : List Text → Options → Pending → Except UsageError (Options ⊕ Command)
  | [], o, pending => do return .inl (← settle o pending)
  | s :: rest, o, pending =>
    match Argument.read s with
    | .flag flag joined => do
      if joined then throw .unexpectedValue
      let o ← settle o pending
      match flag with
      | .help => return .inr .help
      | .version => return .inr .version
      | .schema =>
        if o.schema then throw .repeated
        readArguments rest { o with schema := true } none
    | .option option value => do
      let o ← settle o pending
      match value with
      | some value => readArguments rest (← o.put option (some value)) none
      | none => readArguments rest o (some (option, none))
    | .separator =>
      if rest.isEmpty then do return .inl (← settle o pending) else .error .unexpected
    | .word =>
      match pending with
      | some (option, none) => readArguments rest o (some (option, some s))
      | _ => .error .unexpected
    | .unknown => .error .unexpected

/-- What the program is to do, given its arguments and the variables of the process. -/
def command (vars : Text → Option Text) (arguments : List Text) :
    Except UsageError Command := do
  match ← readArguments arguments {} none with
  | .inr command => return command
  | .inl o =>
    let o ← o.complete vars .config
    let o ← o.complete vars .listen
    return o.command

/-! ## Running -/

/-- The name and version of the program. -/
def nameAndVersion : Text :=
  "webtrace-starter 0.1.0\n".toList

/-- How the program is used. It shows what the variables are set to. -/
def help (vars : Text → Option Text) : Text :=
  let environment (option : ValueOption) : Text :=
    "[env: ".toList ++ option.variableName ++ '=' ::
      (vars option.variableName).getD [] ++ "]".toList
  List.flatMap (· ++ ['\n']) [
    "Serves a few routes with HTTP server telemetry".toList,
    [],
    "Usage: ".toList,
    [],
    "Options:".toList,
    "  -c, --config <CONFIG_PATH>  Telemetry configuration file ".toList ++ environment .config,
    "      --listen <LISTEN>       Address to listen on ".toList ++ environment .listen
      ++ " [default: 127.0.0.1:3000]".toList,
    "      --schema                Prints the configuration schema".toList,
    "  -h, --help                  Print help".toList,
    "  -V, --version               Print version".toList]

/-- How the program ends. -/
structure Ending where
  code : Nat
  output : Text := []
  /-- What it says is wrong, where that has a wording. -/
  complaint : Option Text := none
  deriving DecidableEq, Repr

/-- The wording of an error of starting. -/
def complaintOf : StartError → Option Text
  | .configuration error => error.message?
  | .filter error => some ("could not parse log filter: ".toList ++ error.message)
  | .installed =>
    some ("could not install the tracing subscriber: ".toList
      ++ "a global default trace dispatcher has already been set".toList)

/-- How the program ends, given how files are read. It serves nothing: once telemetry has started, it
ends for want of a server. -/
def run (vars : Text → Option Text) (read : FileReader) (arguments : List Text) : Ending :=
  match command vars arguments with
  | .error error => { code := 2, complaint := some error.message }
  | .ok .help => { code := 0, output := help vars }
  | .ok .version => { code := 0, output := nameAndVersion }
  | .ok .schema => { code := 0, output := Configuration.schema.toValue.write 0 ++ ['\n'] }
  | .ok (.serve config listen) =>
    let started := Startup.startFrom (fun _ => true) vars {} read config
    let complaint := match started.result with
      | .error error => complaintOf error
      | .ok _ => some ("could not listen on ".toList ++ listen.write)
    { code := 1, complaint := complaint }

/-- The files the program asks for. -/
def filesNeeded (vars : Text → Option Text) (arguments : List Text) : List Text :=
  match command vars arguments with
  | .ok (.serve (some path) _) => [path]
  | _ => []

end ServerTelemetry.CommandLine
