import OpenBroker.Number.Decimal
import OpenBroker.Text.Case

/-!
# Levels of a log

A level is a number; the larger it is, the more a message matters.  The levels
have names, some of them two.  A configured level is named in upper case.
-/
namespace OpenBroker
namespace Log

/-- **Level.** -/
abbrev Level := Nat

/-- **Severity** of a message. -/
inductive Severity
  | debug
  | info
  | warning
  | error
  | critical
  deriving DecidableEq, Repr

namespace Severity

/-- The level of a severity. -/
def level : Severity → Level
  | debug => 10
  | info => 20
  | warning => 30
  | error => 40
  | critical => 50

/-- How a severity is written in a line. -/
def label : Severity → Text
  | debug => "DEBUG"
  | info => "INFO"
  | warning => "WARNING"
  | error => "ERROR"
  | critical => "CRITICAL"

end Severity

namespace Level

/-- The level that stands for no level. -/
def unset : Level := 0

/-- **Names** of the levels. -/
def names : List (Text × Level) :=
  [("CRITICAL", 50), ("FATAL", 50), ("ERROR", 40), ("WARN", 30), ("WARNING", 30), ("INFO", 20),
    ("DEBUG", 10), ("NOTSET", unset)]

/-- The level of a name in upper case. -/
def ofName? (name : Text) : Option Level := names.lookup name

/-- The level that a configured text names. -/
def ofText? (t : Text) : Option Level := ofName? (Text.upper t)

/-- What stands for the level where a configured text names none. -/
def placeholder (t : Text) : Text := "Level " ++ Text.upper t

end Level
end Log
end OpenBroker
