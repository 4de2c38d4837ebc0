import VariableBridge.Config.Basic

/-!
# The environment

Variables of the environment override parts of the configuration, say where its
file lies, and set up logging. A number that cannot be read overrides nothing.
-/

namespace VariableBridge

/-- The variables that are set. -/
abbrev Environment := List (String × String)

/-- A natural number below a bound, with an optional plus sign. -/
def readNatural (bound : Nat) (text : String) : Option Nat :=
  let digits := match text.toList with
    | '+' :: rest => rest
    | cs => cs
  if digits.isEmpty || !digits.all Char.isDigit then none
  else
    let value := Nat.ofDigitChars 10 digits 0
    if value < bound then some value else none

/-- Trim names and leave out the empty ones. -/
def cleanNames (names : List String) : List String := (names.map Text.trim).filter (· != "")

/-- The names of a list with commas. -/
def splitVars (list : String) : List String :=
  cleanNames (Text.splitAt ',' list)

namespace Environment

/-- The value of a variable. -/
def get? (env : Environment) (name : String) : Option String := env.lookup name

/-- A number in a variable. -/
def number? (env : Environment) (name : String) (bound : Nat) : Option Nat :=
  (env.get? name).bind fun text => readNatural bound (Text.trim text)

/-- A configuration with the overrides of the environment. -/
def override (env : Environment) (c : Configuration) : Configuration where
  bridge := { c.bridge with
    vars := ((env.get? "VARSTREAM_VARS").map splitVars).getD c.bridge.vars
    sourceId := (env.get? "VARSTREAM_SOURCE_ID").getD c.bridge.sourceId
    skip := ((env.number? "VARSTREAM_SKIP" UInt32.size).map UInt32.ofNat).getD c.bridge.skip }
  demo := { c.demo with
    wsPort := ((env.number? "VARSTREAM_WS_PORT" UInt16.size).map UInt16.ofNat).getD c.demo.wsPort }

/-- A path below a directory. -/
def joinPath (directory name : String) : String :=
  if directory = "" ∨ directory.toList.getLast? = some '/' then directory ++ name
  else directory ++ "/" ++ name

/-- The home directory; without one, the working directory. -/
def home (env : Environment) : String :=
  ((env.get? "HOME").or (env.get? "USERPROFILE")).getD "."

/-- Where the configuration file lies if it is not said otherwise. -/
def configPath (env : Environment) : String :=
  joinPath (joinPath env.home ".varstream") "config.toml"

end Environment

/-- How logging is set up. -/
structure Telemetry where
  /-- Name of the service. -/
  service : String
  /-- Filter of log messages. -/
  filter : String
  /-- Are log messages written as JSON? -/
  json : Bool
  /-- Where spans are sent, if they are. -/
  endpoint : Option String
  deriving DecidableEq, Repr

/-- The set-up of logging by the environment. -/
def Telemetry.ofEnvironment (service : String) (env : Environment) : Telemetry where
  service := service
  filter := (env.get? "RUST_LOG").getD "info"
  json := env.get? "VARSTREAM_LOG_FORMAT" == some "json"
  endpoint := (env.get? "OTEL_EXPORTER_OTLP_ENDPOINT").filter (· != "")

end VariableBridge
