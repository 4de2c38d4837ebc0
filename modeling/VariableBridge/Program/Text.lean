import VariableBridge.Number.Text

/-!
# Texts of the program

What the program prints besides the messages of the bus.
-/

namespace VariableBridge.Program

open Number (natText)

/-- The line that names the program and its version. -/
def versionLine : String := "varstream 0.1.0"

/-- The lines of the help text. -/
def helpLines : List String := [
  "Stream pipeline variables to network clients",
  "",
  "Usage: varstream [OPTIONS]",
  "",
  "Options:",
  "  -c, --config <FILE>    Path to configuration file (TOML)",
  "      --init             Write the default configuration file and exit",
  "      --vars <VARS>      Variables to export, comma separated (default: all)",
  "      --skip <SKIP>      Cycles to skip after each send",
  "      --cycles <CYCLES>  Cycles to run; 0 runs until Ctrl-C",
  "      --serve <PORT>     Serve samples over WebSocket on this port",
  "  -q, --quiet            Do not print individual samples",
  "  -h, --help             Print help",
  "  -V, --version          Print version"]

/-- The lines that open every run. -/
def banner : List String := [
  "",
  "  ╔══════════════════════════════════════╗",
  "  ║        varstream variable bridge     ║",
  "  ╚══════════════════════════════════════╝",
  ""]

/-- The configuration has been written. -/
def writtenLine (path : String) : String := "  ✓ Config written to " ++ path

/-- The configuration has not been written. -/
def saveErrorLine (message : String) : String := "Error saving config: " ++ message

/-- The configuration has been loaded. -/
def loadedLine (path : String) : String := "  Config loaded from " ++ path

/-- There is no configuration. -/
def missingLine (path : String) : String :=
  "  No config at " ++ path ++ "; using defaults (run with --init to create one)."

/-- The configuration cannot be used. -/
def loadErrorLines (message : String) : List String :=
  ["Config error: " ++ message, "  Using default configuration."]

/-- The sample server listens. -/
def servingLine (port : Nat) : String := "  Serving samples on ws://0.0.0.0:" ++ natText port

/-- The bridge is prepared. -/
def bridgingLine (vars : List String) (rate : String) : String :=
  "  Bridging " ++ natText vars.length ++ " variable(s) at " ++ rate ++ " Hz: " ++
    ", ".intercalate vars

/-- The bridge cannot be prepared. -/
def errorLine (message : String) : String := "✗ " ++ message

/-- Where to look for the reason. -/
def adviceLine (path : String) : String := "  Check the [bridge] section of " ++ path ++ "."

end VariableBridge.Program
