import ScopedAuth.Family
import ScopedAuth.Glob.Pattern
import ScopedAuth.Store

/-!
# Errors of a configuration

What can be wrong with a configuration: it cannot be read, it is not what its format asks for, or
what it says cannot be carried out.
-/

namespace ScopedAuth

/-- What is wrong with what a configuration says. -/
inductive ConfigFault where
  | unknownLogFormat (name : String)
  | unknownScheme (name : String)
  | unknownFallback (name : String)
  | missingUsername (context : String)
  | twoPasswords (context : String)
  | malformedPattern (pattern : String) (error : Glob.PatternError)
  | duplicateTarget (target : String) (family : Family)
  deriving DecidableEq

/-- The wording of a fault. -/
def ConfigFault.message : ConfigFault → String
  | .unknownLogFormat name => "Unknown log format: " ++ name
  | .unknownScheme name => "Unknown authentication scheme: " ++ name
  | .unknownFallback name => "Unknown fallback kind: " ++ name
  | .missingUsername context => "Missing username for " ++ context
  | .twoPasswords context => "Both password and password_env set for " ++ context
  | .malformedPattern pattern error =>
    "Invalid fallback pattern " ++ pattern ++ ": " ++ error.message
  | .duplicateTarget target family =>
    "Duplicate target " ++ target ++ " for scheme " ++ family.name

/-- Why there is no configuration. -/
inductive ConfigError where
  | notFound (path : String)
  | unreadable
  /-- The text is not in the format, or its values are not of the kinds expected. -/
  | malformed
  | invalid (fault : ConfigFault)
  | missingVariable (name : String)
  deriving DecidableEq

/-- The wording of an error. -/
def ConfigError.message : ConfigError → String
  | .notFound path => "Configuration file not found: " ++ path
  | .unreadable => "Failed to read configuration"
  | .malformed => "Failed to parse configuration"
  | .invalid fault => "Invalid configuration: " ++ fault.message
  | .missingVariable name => "Environment variable " ++ name ++ " is not set"

/-- Why an authenticator cannot be set up. -/
inductive SetupError where
  | argument (error : StoreError)
  | config (error : ConfigError)
  deriving DecidableEq

/-- The wording of an error. -/
def SetupError.message : SetupError → String
  | .argument error => "Invalid argument: " ++ error.message
  | .config error => "Configuration error: " ++ error.message

end ScopedAuth
