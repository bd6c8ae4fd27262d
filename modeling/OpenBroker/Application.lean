import OpenBroker.Broker.Memory
import OpenBroker.Catalog
import OpenBroker.Http.Service
import OpenBroker.Log.Registry
import OpenBroker.Settings

/-!
# Starting the application

The application is put together from three parts, each of which may be given or
made: the configuration is loaded from the environment, the broker is a memory
broker as configured, and the logger is the configured one.  They are made in this
order, so the first part that cannot be made is the one that is reported.

The application has a logger of its own besides, for crashes, which it watches.  If that
is the configured one, or one above it, the lines about outcomes are kept there too.
-/
namespace OpenBroker
namespace Application

/-- The memory broker of a configuration. -/
def memory (entries : List (Text × Files.Entry)) (c : Config) : Except Failure Memory :=
  match c.catalogPath? with
  | none | some [] => Memory.create none c.instanceLimit c.dashboardBase
  | some p =>
    match Catalog.load entries p with
    | .error e => .error e.failure
    | .ok j => Memory.create (some (Value.ofJson j)) c.instanceLimit c.dashboardBase

/-- What the application says when it has started with a kind of broker. -/
def banner (kind : Text) : Text :=
  "[flask_app] Broker=" ++ kind ++ "\n[flask_app] Service Broker API registered at /v2\n"

/-- The name of the application's own logger. -/
def ownLogger : Text := "broker_api.flask_app"

/-- **A started application** over brokers of type `β`. -/
structure Started (β : Type) where
  config : Config
  broker : β
  registry : Log.Registry
  /-- Whether the lines about outcomes go to a logger from outside. -/
  loggerGiven : Bool
  /-- What was printed before the banner. -/
  printed : Text

/-- The configuration that is given, or the one of the environment and the line about
it. -/
def configuration (given : Option Config) (env : Environment)
    (entries : List (Text × Files.Entry)) : Except Failure (Config × Text) :=
  match given with
  | some c => .ok (c, [])
  | none => Settings.tell .total env entries

/-- The registry with the configured logger, unless another logger is given, and with
the application's own. -/
def registry (loggerGiven : Bool) (c : Config) : Except Failure Log.Registry :=
  (if loggerGiven then .ok .initial
    else Log.Registry.initial.configure c.loggerName c.logLevel).map (·.watch ownLogger)

/-- **Start** an application, making the broker from the configuration as told. -/
def start {β : Type} (given : Option Config) (makeBroker : Config → Except Failure β)
    (loggerGiven : Bool) (env : Environment) (entries : List (Text × Files.Entry)) :
    Except Failure (Started β) := do
  let (config, printed) ← configuration given env entries
  let broker ← makeBroker config
  let registry ← registry loggerGiven config
  .ok ⟨config, broker, registry, loggerGiven, printed⟩

/-! ## Logging -/

/-- **Entry** that the application keeps of its own log, with the class of the failure
that it is about, if it is about one. -/
structure Entry where
  severity : Log.Severity
  message : Text
  cause? : Option Text
  deriving DecidableEq, Repr

/-- **Record.**  What serving a request left in the logs. -/
structure Record where
  /-- The lines that the logger from outside was given. -/
  given : List Text
  written : List Log.Line
  kept : List Entry
  deriving DecidableEq, Repr

/-- The entries among lines. -/
def keptAmong (cause? : Option Text) (lines : List Log.Line) : List Entry :=
  lines.filterMap fun
    | .kept severity message => some ⟨severity, message, cause?⟩
    | _ => none

variable {β : Type}

/-- **Log** what serving a request did: its outcome, and then its crash. -/
def Started.log (a : Started β) (r : Http.Request) (s : Http.Served) : Record × Started β :=
  let (lines, registry) :=
    if a.loggerGiven then ([], a.registry)
    else Log.Registry.emitAll a.config.loggerName .error s.lines a.registry
  let (crashLines, registry) :=
    Log.Registry.emitAll ownLogger .error (s.crash?.toList.map (Http.Crash.line r)) registry
  (⟨if a.loggerGiven then s.lines else [], lines ++ crashLines,
      keptAmong none lines ++ keptAmong (s.crash?.map Http.Crash.className) crashLines⟩,
    { a with registry := registry })

end Application
end OpenBroker
