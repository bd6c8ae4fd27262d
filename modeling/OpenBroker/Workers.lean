import OpenBroker.Failure.Basic
import OpenBroker.Number.Literal
import OpenBroker.Settings

/-!
# Workers of the server

The server runs in one or several processes, each with an application of its own.
The address it listens on and the number of processes are taken from the
environment, both as they stand there.  Every process says that it started, and
warns if it is not the only one, since brokers in memory do not share their
instances.
-/
namespace OpenBroker

/-- **Arrangement** of the server's processes. -/
structure Workers where
  address : Text
  count : Int
  accessLog : Text
  errorLog : Text
  deriving DecidableEq, Repr

namespace Workers

/-- The most characters that are shown of a refused number. -/
def shownLimit : Nat := 200

/-- The failure of a text that is no whole number. -/
def refused (t : Text) : Literal.IntegerFault → Failure
  | .malformed =>
    .standard "ValueError"
      ("invalid literal for int() with base 10: " ++ (Text.quoted t).take shownLimit)
  | .tooLong digits => .standard "ValueError" (Literal.tooLongMessage digits)

/-- **Load** the arrangement of an environment. -/
def load (env : Environment) : Except Failure Workers :=
  let address := (Keyed.find? "BROKER_BIND" env).getD "0.0.0.0:5000"
  let count := (Keyed.find? "GUNICORN_WORKERS" env).getD "1"
  match Literal.integer count with
  | .error fault => .error (refused count fault)
  | .ok n => .ok ⟨address, n, "-", "-"⟩

/-- **What a process says** when it has started. -/
def greeting (w : Workers) (process : Int) : List (Log.Severity × Text) :=
  let started : Text := "Broker worker started (pid=" ++ Decimal.ofInt process ++ ")"
  let warning : Text :=
    "Multiple workers with the in-memory broker: each worker holds its own instances"
  (.info, started) :: if 1 < w.count then [(.warning, warning)] else []

end Workers
end OpenBroker
