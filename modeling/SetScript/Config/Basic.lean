/-!
# Configuration

The settings of the server.  Everything is switched on by default.
-/

namespace SetScript

/-- Which diagnostics are computed. -/
structure Switches where
  enabled : Bool := true
  unresolvedVariables : Bool := true
  syntaxErrors : Bool := true
deriving DecidableEq

/-- The settings of the server. -/
structure Config where
  diagnostics : Switches := {}
deriving DecidableEq

namespace Config

/-- The name of the settings file in a workspace. -/
def fileName : String :=
  ".setlang.toml"

end Config

end SetScript
