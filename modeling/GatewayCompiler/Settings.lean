import GatewayCompiler.Address
import GatewayCompiler.Decimal.Unsigned
import GatewayCompiler.Fault
import GatewayCompiler.Schema.Reader
import GatewayCompiler.Schema.Writer
import GatewayCompiler.Text.Blank

/-!
# Settings

What a translation takes besides the objects: the address that listeners bind, the connect timeout,
and how a Service becomes an endpoint.  Settings come from environment variables, each with a
default, and are checked before use.
-/

namespace GatewayCompiler

open Schema

/-- How a Service becomes an endpoint. -/
inductive EndpointMode where
  /-- By the cluster address, delivered as an assignment. -/
  | clusterIp
  /-- By the DNS name, resolved by the proxy. -/
  | serviceDns
  deriving DecidableEq, Repr

inductive LogFormat where
  | text
  | json
  deriving DecidableEq, Repr

/-- A setting that is one of a few words: blanks around it and the case of letters do not count. -/
def normalizeWord (text : String) : String :=
  String.ofList ((Text.trim text).toList.map Char.toLower)

namespace EndpointMode

def words : List (String × EndpointMode) :=
  [("cluster-ip", .clusterIp), ("service-dns", .serviceDns)]

def name : EndpointMode → String
  | .clusterIp => "cluster-ip"
  | .serviceDns => "service-dns"

def parse (text : String) : Except Fault EndpointMode :=
  match words.lookup (normalizeWord text) with
  | some mode => .ok mode
  | none => .error <| .settings <|
    s!"Invalid endpoint policy '{normalizeWord text}': expected 'cluster-ip' or 'service-dns'"

end EndpointMode

namespace LogFormat

def words : List (String × LogFormat) :=
  [("text", .text), ("json", .json)]

def name : LogFormat → String
  | .text => "text"
  | .json => "json"

def parse (text : String) : Except Fault LogFormat :=
  match words.lookup (normalizeWord text) with
  | some format => .ok format
  | none => .error <| .settings <|
    s!"Invalid log format '{normalizeWord text}': expected 'text' or 'json'"

end LogFormat

structure Settings where
  listenerAddress : String
  connectTimeoutSeconds : UInt64
  endpointMode : EndpointMode
  clusterDomain : String
  deriving DecidableEq, Repr

structure LogSettings where
  level : String
  format : LogFormat
  deriving DecidableEq, Repr

/-- The values of environment variables. -/
abbrev Environment := String → Option String

namespace Environment

def listenerAddress : String := "GATEWAY_XDS_LISTENER_ADDRESS"

def connectTimeout : String := "GATEWAY_XDS_CONNECT_TIMEOUT_SECONDS"

def endpointPolicy : String := "GATEWAY_XDS_ENDPOINT_POLICY"

def clusterDomain : String := "GATEWAY_XDS_CLUSTER_DOMAIN"

def logLevel : String := "GATEWAY_XDS_LOG_LEVEL"

def logFormat : String := "GATEWAY_XDS_LOG_FORMAT"

/-- The variables that settings are taken from. -/
def names : List String :=
  [listenerAddress, connectTimeout, endpointPolicy, clusterDomain, logLevel, logFormat]

end Environment

/-- Faults of several fields in one text.  There is no order among the fields that a check goes by; the
ascending one, in which they are given here, is a choice. -/
def settingsFault (problems : List (String × String)) : Except Fault Unit :=
  if problems = [] then .ok ()
  else .error <| .settings <|
    "Validation failed: " ++ "; ".intercalate (problems.map fun (field, text) => s!"{field}: {text}")

/-- The timeouts that are accepted, in seconds. -/
def isValidTimeout (seconds : UInt64) : Bool :=
  1 ≤ seconds && seconds ≤ 300

namespace Settings

def default : Settings := ⟨"0.0.0.0", 5, .clusterIp, "cluster.local"⟩

instance : Inhabited Settings := ⟨default⟩

def problems (settings : Settings) : List (String × String) :=
  (if settings.clusterDomain.isEmpty then
    [("cluster_domain", "Cluster domain cannot be empty")] else []) ++
  (if isValidTimeout settings.connectTimeoutSeconds then [] else
    [("connect_timeout_seconds", "Connect timeout must be between 1 and 300 seconds")]) ++
  (if (Address.parse? settings.listenerAddress).isSome then [] else
    [("listener_address", s!"'{settings.listenerAddress}' is not an IP address")])

def validate (settings : Settings) : Except Fault Unit :=
  settingsFault settings.problems

def readTimeout (text : String) : Except Fault UInt64 :=
  match Decimal.readUInt64 (Text.trim text) with
  | .ok seconds => .ok seconds
  | .error e => .error (.settings s!"Invalid {Environment.connectTimeout}: {e.message}")

/-- A variable that is set is read, any other keeps its default. -/
def readOr {α : Type} (value : Option String) (read : String → Except Fault α) (default : α) :
    Except Fault α :=
  match value with
  | some text => read text
  | none => .ok default

/-- The settings of an environment. -/
def ofEnvironment (env : Environment) : Except Fault Settings := do
  let timeout ← readOr (env Environment.connectTimeout) readTimeout default.connectTimeoutSeconds
  let mode ← readOr (env Environment.endpointPolicy) EndpointMode.parse default.endpointMode
  let settings : Settings := {
    listenerAddress := (env Environment.listenerAddress).getD default.listenerAddress
    connectTimeoutSeconds := timeout
    endpointMode := mode
    clusterDomain := (env Environment.clusterDomain).getD default.clusterDomain }
  settings.validate
  return settings

def reader : Reader Settings :=
  Record.reader "TranslatorConfig" <| Settings.mk
    <$> .required "listener_address" Reader.string
    <*> .required "connect_timeout_seconds" Reader.uint64
    <*> .required "endpoint_policy" (Reader.enumeration EndpointMode.words)
    <*> .required "cluster_domain" Reader.string

def toJson (settings : Settings) : Json :=
  .ofFields [
    ("listener_address", .string settings.listenerAddress),
    ("connect_timeout_seconds", Writer.uint64 settings.connectTimeoutSeconds),
    ("endpoint_policy", .string settings.endpointMode.name),
    ("cluster_domain", .string settings.clusterDomain)]

end Settings

namespace LogSettings

def default : LogSettings := ⟨"info", .text⟩

def validate (settings : LogSettings) : Except Fault Unit :=
  settingsFault <|
    if settings.level.isEmpty then [("log_level", "Log level cannot be empty")] else []

def ofEnvironment (env : Environment) : Except Fault LogSettings := do
  let format ← Settings.readOr (env Environment.logFormat) LogFormat.parse default.format
  let settings : LogSettings := ⟨(env Environment.logLevel).getD default.level, format⟩
  settings.validate
  return settings

def toJson (settings : LogSettings) : Json :=
  .ofFields [("log_level", .string settings.level), ("log_format", .string settings.format.name)]

end LogSettings

end GatewayCompiler
