/-
# Levels of logging
-/

import Walkthrough.Text.Lowercase

namespace Walkthrough

/-- How much is logged. -/
inductive LogLevel where
  | everything
  | debug
  | info
  | warning
  | error
  | critical
deriving DecidableEq, Inhabited

namespace LogLevel

/-- The name of a level. -/
def name : LogLevel → String
  | everything => "NOTSET"
  | debug => "DEBUG"
  | info => "INFO"
  | warning => "WARNING"
  | error => "ERROR"
  | critical => "CRITICAL"

/-- The names of levels, two of which have a second one. -/
def names : List (String × LogLevel) :=
  ([everything, debug, info, warning, error, critical].map fun l => (l.name, l)) ++
    [("WARN", warning), ("FATAL", critical)]

/-- The level that a name in any case stands for; an unknown name stands for `warning`. -/
def ofName (s : String) : LogLevel := (names.lookup (Text.upperLatin s)).getD warning

/-- The level after it is set by name: only the first setting counts. -/
def configure (level : Option LogLevel) (s : String) : LogLevel := level.getD (ofName s)

end LogLevel
end Walkthrough
