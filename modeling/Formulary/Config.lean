import Formulary.Config.Binding
import Formulary.Suggestion.Cache
import Formulary.Text.Case

/-!
Settings of the program. They come from environment variables whose names share a stem; a variable
that is not set leaves the default. Variables are read in a fixed order, and the first one that cannot
be read is reported.
-/

namespace Formulary

structure Config where
  /-- The address that suggestions come from; without one they come from the known names. -/
  endpoint : Option String := none
  /-- The seconds after which a request is given up. -/
  timeout : Float := 5
  cacheSize : Int := Cache.defaultCapacity
  scope : Scope := .default
  logLevel : String := "WARNING"

/-- Why a setting cannot be used. -/
inductive SettingError where
  | timeout (text : String)
  | cacheSize (e : Decimal.IntegerError)
  | binding (e : BindingError)
deriving DecidableEq, Repr

def SettingError.message : SettingError → String
  | timeout text => s!"could not convert string to float: {Text.quoted text}"
  | cacheSize e => e.message
  | binding e => e.message

abbrev Environment := List (String × String)

namespace Config

def setting? (env : Environment) (name : String) : Option String :=
  env.lookup ("FORMULABUILDER_" ++ name)

/-- The parts of a list of bindings, separated by commas; blank parts are left out. -/
def bindingParts (s : String) : List String :=
  ((s.toList.splitOnP (· == ',')).map String.ofList).filter fun part => !(Text.trim part).isEmpty

def readTimeout (s : String) : Except SettingError Float :=
  match Decimal.readFloat? s with
  | some x => .ok x
  | none => .error (.timeout s)

def readCacheSize (s : String) : Except SettingError Int :=
  (Decimal.readInt s).mapError .cacheSize

def readScope (bindings : List String) : Except SettingError Scope :=
  (parseScope bindings).mapError .binding

/-- The settings that the environment gives. A scope without any binding is empty, but a blank one
leaves the default. -/
def ofEnvironment (env : Environment) : Except SettingError Config := do
  let defaults : Config := {}
  let url := Text.trim ((setting? env "AUTOCOMPLETE_URL").getD "")
  let timeout ← (setting? env "TIMEOUT").elim (pure defaults.timeout) readTimeout
  let cacheSize ← (setting? env "CACHE_SIZE").elim (pure defaults.cacheSize) readCacheSize
  let bindings := Text.trim ((setting? env "SCOPE").getD "")
  let scope ← if bindings.isEmpty then pure defaults.scope else readScope (bindingParts bindings)
  return {
    endpoint := if url.isEmpty then none else some url
    timeout
    cacheSize
    scope
    logLevel := (setting? env "LOG_LEVEL").elim defaults.logLevel Text.upper }

end Config

end Formulary
