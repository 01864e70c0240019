import GatewayCompiler.Decimal.Unsigned
import GatewayCompiler.Settings

/-!
# The command line

Options have a long name, some a letter as well.  A value stands after its option, after an equals
sign, or right after the letter.  A value is read when the next option starts or the words end, so of
two mistakes the one in an earlier value goes before one in a later word, unless the later word is no
option at all.
-/

namespace GatewayCompiler

/-- Why words are not a command line, or what they ask for instead of a run. -/
inductive UsageError where
  | missingRequiredArgument
  | unknownArgument
  | invalidValue
  | valueValidation
  | argumentConflict
  | tooManyValues
  | displayHelp
  | displayVersion
  deriving DecidableEq, Repr

namespace UsageError

/-- Whether the words ask for a text and are no mistake. -/
def isRequest : UsageError → Bool
  | .displayHelp | .displayVersion => true
  | _ => false

def help : String :=
  "Usage: gateway-compiler --gateway NAME --manifests PATH... [OPTION...]\n\n" ++
  "  -g, --gateway NAME           the Gateway to translate\n" ++
  "  -n, --namespace NAME         its namespace\n" ++
  "  -m, --manifests PATH...      files or directories of manifests\n" ++
  "  -o, --output PATH            the output file, - for the standard output\n" ++
  "      --listener-address IP    the address that listeners bind\n" ++
  "      --connect-timeout N      the connect timeout of clusters in seconds\n" ++
  "      --endpoint-policy WORD   cluster-ip or service-dns\n" ++
  "      --cluster-domain NAME    the domain of Services\n" ++
  "      --log-format WORD        text or json\n" ++
  "  -v, --verbose                say more\n" ++
  "  -h, --help                   print this text\n" ++
  "  -V, --version                print the version"

def message : UsageError → String
  | .missingRequiredArgument => "a gateway and at least one manifest are required"
  | .unknownArgument => "there is an argument that is not known"
  | .invalidValue => "an option has no value or one it does not take"
  | .valueValidation => "an option has a value that is not a number in range"
  | .argumentConflict => "an option is given more than once"
  | .tooManyValues => "an option has a value and takes none"
  | .displayHelp => help
  | .displayVersion => "gateway-compiler 0.1.0"

end UsageError

inductive CommandOption where
  | gateway
  | gatewayNamespace
  | manifests
  | output
  | verbose
  | listenerAddress
  | connectTimeout
  | endpointPolicy
  | clusterDomain
  | logFormat
  | help
  | version
  deriving DecidableEq, Repr

namespace CommandOption

def longNames : List (String × CommandOption) :=
  [("gateway", .gateway), ("namespace", .gatewayNamespace), ("manifests", .manifests),
    ("output", .output), ("verbose", .verbose), ("listener-address", .listenerAddress),
    ("connect-timeout", .connectTimeout), ("endpoint-policy", .endpointPolicy),
    ("cluster-domain", .clusterDomain), ("log-format", .logFormat), ("help", .help),
    ("version", .version)]

def letters : List (Char × CommandOption) :=
  [('g', .gateway), ('n', .gatewayNamespace), ('m', .manifests), ('o', .output), ('v', .verbose),
    ('h', .help), ('V', .version)]

def takesValue : CommandOption → Bool
  | .verbose | .help | .version => false
  | _ => true

def takesSeveral (option : CommandOption) : Bool :=
  option == .manifests

end CommandOption

/-- What the command line asks for. -/
structure Arguments where
  gateway : String
  gatewayNamespace : String
  manifests : List String
  output : String
  verbose : Bool
  listenerAddress : Option String
  connectTimeout : Option UInt64
  endpointMode : Option EndpointMode
  clusterDomain : Option String
  logFormat : Option LogFormat
  deriving DecidableEq, Repr

namespace Arguments

/-- The file that is written when none is named. -/
def defaultOutput : String := "envoy-xds.json"

/-- The output that stands for the standard output. -/
def standardOutput : String := "-"

def key (arguments : Arguments) : ObjectKey :=
  ⟨arguments.gatewayNamespace, arguments.gateway⟩

end Arguments

/-- What has been read of a command line. -/
structure GivenArguments where
  gateway : Option String
  gatewayNamespace : Option String
  manifests : List String
  output : Option String
  verbose : Bool
  listenerAddress : Option String
  connectTimeout : Option UInt64
  endpointMode : Option EndpointMode
  clusterDomain : Option String
  logFormat : Option LogFormat
  deriving DecidableEq, Repr

namespace GivenArguments

def none : GivenArguments :=
  ⟨.none, .none, [], .none, false, .none, .none, .none, .none, .none⟩

def readPath (value : String) : Except UsageError String :=
  if value.isEmpty then .error .invalidValue else .ok value

def readNumber (value : String) : Except UsageError UInt64 :=
  (Decimal.readUInt64 value).mapError fun _ => .valueValidation

def readWord {α : Type} (words : List (String × α)) (value : String) : Except UsageError α :=
  match words.lookup value with
  | some word => .ok word
  | .none => .error .invalidValue

/-- The value of an option that may be given once. -/
def once {α : Type} (current : Option α) (values : List String)
    (read : String → Except UsageError α) : Except UsageError (Option α) :=
  match current, values with
  | some _, _ => .error .argumentConflict
  | .none, value :: _ => (read value).map some
  | .none, [] => .error .invalidValue

/-- Takes up an option with its values. -/
def take (given : GivenArguments) (option : CommandOption) (values : List String) :
    Except UsageError GivenArguments := do
  if option.takesValue && values.isEmpty then
    throw .invalidValue
  match option with
  | .gateway => return { given with gateway := ← once given.gateway values .ok }
  | .gatewayNamespace =>
    return { given with gatewayNamespace := ← once given.gatewayNamespace values .ok }
  | .manifests => return { given with manifests := given.manifests ++ (← values.mapM readPath) }
  | .output => return { given with output := ← once given.output values readPath }
  | .verbose =>
    if given.verbose then throw .argumentConflict else return { given with verbose := true }
  | .listenerAddress =>
    return { given with listenerAddress := ← once given.listenerAddress values .ok }
  | .connectTimeout =>
    return { given with connectTimeout := ← once given.connectTimeout values readNumber }
  | .endpointPolicy =>
    return { given with
      endpointMode := ← once given.endpointMode values (readWord EndpointMode.words) }
  | .clusterDomain => return { given with clusterDomain := ← once given.clusterDomain values .ok }
  | .logFormat =>
    return { given with logFormat := ← once given.logFormat values (readWord LogFormat.words) }
  | .help => throw .displayHelp
  | .version => throw .displayVersion

/-- The arguments with their defaults, if nothing that is required is missing. -/
def complete (given : GivenArguments) : Except UsageError Arguments :=
  match given.gateway, given.manifests with
  | some gateway, _ :: _ => .ok {
    gateway
    gatewayNamespace := given.gatewayNamespace.getD defaultNamespace
    manifests := given.manifests
    output := given.output.getD Arguments.defaultOutput
    verbose := given.verbose
    listenerAddress := given.listenerAddress
    connectTimeout := given.connectTimeout
    endpointMode := given.endpointMode
    clusterDomain := given.clusterDomain
    logFormat := given.logFormat }
  | _, _ => .error .missingRequiredArgument

end GivenArguments

/-- The state between two words. -/
structure CommandState where
  given : GivenArguments
  /-- An option whose values are not read yet. -/
  pending : Option (CommandOption × List String)
  /-- Whether the next word can be a value of that option. -/
  awaitsValue : Bool
  /-- Whether no more options can follow. -/
  pastOptions : Bool
  deriving DecidableEq, Repr

namespace CommandState

def start : CommandState := ⟨GivenArguments.none, none, false, false⟩

/-- Reads the values of the last option. -/
def resolve (state : CommandState) : Except UsageError CommandState :=
  match state.pending with
  | some (option, values) => do
    let given ← state.given.take option values
    return { state with given, pending := none }
  | none => .ok state

def take (state : CommandState) (option : CommandOption) (values : List String) :
    Except UsageError CommandState := do
  let state ← state.resolve
  let given ← state.given.take option values
  return { state with given, awaitsValue := false }

/-- Leaves the values of an option to the words that follow. -/
def await (state : CommandState) (option : CommandOption) : Except UsageError CommandState := do
  let state ← state.resolve
  return { state with pending := some (option, []), awaitsValue := true }

/-- An option by its long name, perhaps with a value after an equals sign. -/
def readLong (state : CommandState) (name : String) (value : Option String) :
    Except UsageError CommandState :=
  match CommandOption.longNames.lookup name, value with
  | none, _ => .error .unknownArgument
  | some option, some value =>
    if option.takesValue then state.take option [value] else .error .tooManyValues
  | some option, none =>
    if option.takesValue then state.await option else state.take option []

/-- Options by their letters.  The first that takes a value takes what follows it in the word. -/
def readLetters (state : CommandState) : List Char → Except UsageError CommandState
  | [] => .ok state
  | letter :: rest =>
    match CommandOption.letters.lookup letter with
    | none => .error .unknownArgument
    | some option =>
      if option.takesValue then
        match rest with
        | [] => state.await option
        | '=' :: value => state.take option [String.ofList value]
        | value => state.take option [String.ofList value]
      else do
        let state ← state.take option []
        readLetters state rest

/-- A word that is no option: a value, if one is awaited. -/
def readValue (state : CommandState) (word : String) : Except UsageError CommandState :=
  match state.awaitsValue, state.pending with
  | true, some (option, values) =>
    .ok { state with
      pending := some (option, values ++ [word])
      awaitsValue := option.takesSeveral }
  | _, _ => .error .unknownArgument

/-- The name of a long option and the value after an equals sign. -/
def splitEquals (cs : List Char) : String × Option String :=
  match cs.dropWhile (· ≠ '=') with
  | _ :: value => (String.ofList (cs.takeWhile (· ≠ '=')), some (String.ofList value))
  | [] => (String.ofList cs, none)

def readWord (state : CommandState) (word : String) : Except UsageError CommandState :=
  if state.pastOptions then .error .unknownArgument
  else match word.toList with
  | ['-', '-'] => .ok { state with pastOptions := true }
  | '-' :: '-' :: rest =>
    let (name, value) := splitEquals rest
    state.readLong name value
  | '-' :: letter :: rest => state.readLetters (letter :: rest)
  | _ => state.readValue word

end CommandState

namespace Arguments

/-- The arguments that the words give. -/
def parse (words : List String) : Except UsageError Arguments := do
  let state ← words.foldlM CommandState.readWord CommandState.start
  let state ← state.resolve
  state.given.complete

/-- The settings of the environment, replaced by those of the command line. -/
def settings (arguments : Arguments) (env : Environment) : Except Fault Settings := do
  let settings ← Settings.ofEnvironment env
  let settings : Settings := {
    listenerAddress := arguments.listenerAddress.getD settings.listenerAddress
    connectTimeoutSeconds := arguments.connectTimeout.getD settings.connectTimeoutSeconds
    endpointMode := arguments.endpointMode.getD settings.endpointMode
    clusterDomain := arguments.clusterDomain.getD settings.clusterDomain }
  settings.validate
  return settings

def logSettings (arguments : Arguments) (env : Environment) : Except Fault LogSettings := do
  let settings ← LogSettings.ofEnvironment env
  return { settings with format := arguments.logFormat.getD settings.format }

end Arguments

end GatewayCompiler
