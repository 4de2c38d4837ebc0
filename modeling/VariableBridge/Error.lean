import VariableBridge.TypeTag

/-!
# Errors

Everything that can go wrong on the way from a variable to a stream. Errors
that the user can mend by changing the settings are configuration errors.
-/

namespace VariableBridge

open Number (natText)

/-- The causes of failure. -/
inductive BridgeError where
  /-- A requested variable does not exist. -/
  | noSuchVariable (name : String)
  /-- A variable has a type that no stream can carry. -/
  | unknownType (name : String) (tag : TypeTag)
  /-- A variable that is being sent no longer exists. -/
  | missingVariable (name : String)
  /-- The names of all variables do not fit into the listing. -/
  | discoveryOverflow (limit : Nat)
  /-- The variable space itself cannot be used. -/
  | invalidHandle
  /-- A strict bridge runs on a real-time thread. -/
  | realTimeSafety (policy : String)
  /-- The scheduling policy of the thread could not be found out. -/
  | schedulingQuery (reason : String)
  /-- A stream could not be opened. -/
  | outlet (reason : String)
  /-- The settings contradict themselves or the state of the bridge. -/
  | invalidConfig (reason : String)
  /-- A parameter may not change now. -/
  | locked (parameter : String)
  deriving DecidableEq, Repr

namespace BridgeError

/-- The text of an error. -/
def message : BridgeError → String
  | .noSuchVariable name => "No such variable: \"" ++ name ++ "\""
  | .unknownType name tag => "Unknown data type for variable \"" ++ name ++ "\": " ++ tag.name
  | .missingVariable name => "Monitored variable disappeared: \"" ++ name ++ "\""
  | .discoveryOverflow limit =>
    "List of all variables is longer than " ++ natText limit ++
      " bytes. Select a subset by setting \"vars\"."
  | .invalidHandle => "Variable space handle is invalid"
  | .realTimeSafety policy =>
    "Bridge used in real-time thread (policy " ++ policy ++ ") with rt_strict enabled"
  | .schedulingQuery reason => "Could not retrieve thread scheduling parameters: " ++ reason
  | .outlet reason => "Stream outlet error: " ++ reason
  | .invalidConfig reason => "Invalid configuration: " ++ reason
  | .locked parameter =>
    "Parameter \"" ++ parameter ++ "\" is locked while the bridge is prepared"

/-- Can the user mend this by changing the settings? -/
def isConfiguration : BridgeError → Bool
  | .noSuchVariable _ => true
  | .unknownType _ _ => true
  | .invalidConfig _ => true
  | .locked _ => true
  | _ => false

end BridgeError

end VariableBridge
