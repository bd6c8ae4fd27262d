import OpenBroker.Failure.Basic
import OpenBroker.Files
import OpenBroker.Keyed
import OpenBroker.Log.Level
import OpenBroker.Number.Literal

/-!
# Settings

The application is configured by the variables of its environment.  A variable that
is missing, empty or blank leaves its setting at the default; what is not blank
counts without the blanks around it.  A catalog must be an existing file, a limit
a whole number that is not negative, a log level one of the known names, in any
case.

The catalog is checked first, then the limit, then the level, and the first bad one
is reported.  Where the operating system cannot say whether there is a catalog file, because its
path is too long or leads through a directory that may not be searched, the complaint is that of
the operating system.

When a configuration has been loaded, a line about it is written to the console.  A console that
cannot write some character of the line writes nothing of it, and then there is no configuration
either.
-/
namespace OpenBroker

/-- **Environment.**  Variables with their values. -/
abbrev Environment := Keyed Text

/-- **Configuration** of the application. -/
structure Config where
  /-- The catalog file; without one the built-in catalog is offered. -/
  catalogPath? : Option Text
  /-- The most live instances; zero is no limit. -/
  instanceLimit : Int
  dashboardBase : Text
  logLevel : Text
  loggerName : Text
  deriving DecidableEq, Repr

namespace Config

/-- The configuration of an empty environment. -/
def default : Config := ⟨none, 100, [], "INFO", "broker"⟩

/-- The level its name stands for. -/
def level? (c : Config) : Option Log.Level := Log.Level.ofText? c.logLevel

/-- The line about a configuration that was loaded. -/
def summary (c : Config) : Text :=
  let limit : Text := if c.instanceLimit = 0 then "unlimited" else Decimal.ofInt c.instanceLimit
  "[settings] catalog=" ++ c.catalogPath?.getD "built-in" ++ "; instance_limit=" ++ limit
    ++ "; log_level=" ++ c.logLevel ++ "\n"

end Config

namespace Settings

/-- The variables of the settings. -/
def catalogVariable : Text := "BROKER_CATALOG_PATH"
@[inherit_doc catalogVariable] def limitVariable : Text := "BROKER_INSTANCE_LIMIT"
@[inherit_doc catalogVariable] def dashboardVariable : Text := "BROKER_DASHBOARD_URL"
@[inherit_doc catalogVariable] def levelVariable : Text := "BROKER_LOG_LEVEL"
@[inherit_doc catalogVariable] def loggerVariable : Text := "BROKER_LOGGER_NAME"

/-- Why an environment is refused. -/
inductive Error
  | missingCatalog (path : Text)
  | inaccessibleCatalog (path : Path) (obstacle : Files.Obstacle)
  | noInteger (name value : Text)
  | belowMinimum (name : Text) (minimum value : Int)
  | unknownLevel (name level : Text)

/-- **The error as a failure.** -/
def Error.failure : Error → Failure
  | missingCatalog p => refused ("BROKER_CATALOG_PATH points to a missing file: " ++ p)
  | inaccessibleCatalog p o =>
    .raised (.named "OSError") [.int o.number, .text o.text, .text p.text]
  | noInteger v t =>
    refused ("Environment variable " ++ v ++ " must be an integer, got " ++ Text.quoted t ++ ".")
  | belowMinimum v minimum n =>
    refused ("Environment variable " ++ v ++ " must be >= " ++ Decimal.ofInt minimum ++ ", got "
      ++ Decimal.ofInt n ++ ".")
  | unknownLevel v level =>
    refused ("Environment variable " ++ v ++ " is not a valid log level: " ++ Text.quoted level
      ++ ".")
where
  /-- The failure of a bad setting. -/
  refused (message : Text) : Failure := .standard "RuntimeError" message

/-- The value of a variable without the blanks around it, if anything is left. -/
def value? (env : Environment) (name : Text) : Option Text :=
  match Text.strip ((Keyed.find? name env).getD []) with
  | [] => none
  | t => some t

/-- The catalog file, if one is set: it has to exist. -/
def catalogPath (env : Environment) (entries : List (Text × Files.Entry)) :
    Except Error (Option Text) :=
  match value? env catalogVariable with
  | none => .ok none
  | some t =>
    let p := Path.ofText t
    if !Files.isAddressable p then .error (.missingCatalog t)
    else
      match Files.isFile entries p with
      | .ok true => .ok (some t)
      | .ok false => .error (.missingCatalog t)
      | .error o => .error (.inaccessibleCatalog p o)

/-- A whole number that is at least a minimum, or a default. -/
def integer (env : Environment) (name : Text) (default minimum : Int) : Except Error Int :=
  match value? env name with
  | none => .ok default
  | some t =>
    match Literal.integer t with
    | .error _ => .error (.noInteger name t)
    | .ok n => if n < minimum then .error (.belowMinimum name minimum n) else .ok n

/-- The name of a level in upper case, or a default. -/
def level (env : Environment) (name default : Text) : Except Error Text :=
  let level := match value? env name with
    | none => default
    | some t => Text.upper t
  match Log.Level.ofName? level with
  | some _ => .ok level
  | none => .error (.unknownLevel name level)

/-- **Load** the configuration of an environment. -/
def load (env : Environment) (entries : List (Text × Files.Entry)) : Except Error Config := do
  let catalog ← catalogPath env entries
  let limit ← integer env limitVariable Config.default.instanceLimit 0
  let level ← level env levelVariable Config.default.logLevel
  .ok ⟨catalog, limit, (value? env dashboardVariable).getD [], level,
    (value? env loggerVariable).getD Config.default.loggerName⟩

end Settings

/-- **Console.**  A character set, the characters that it can write, and its words about one that
it cannot. -/
structure Console where
  charset : Text
  writes : CodePoint → Bool
  complaint : Text

namespace Console

/-- The console that everything can be written to. -/
def total : Console := ⟨"utf-8", fun _ => true, []⟩

/-- **Print** a text, as a whole. -/
def print (console : Console) (t : Text) : Except Failure Text :=
  if t.all console.writes then .ok t
  else .error (.unwritable console.charset console.complaint console.writes t)

end Console

namespace Settings

/-- **Load and tell**: the configuration of an environment, and the line about it that was
printed. -/
def tell (console : Console) (env : Environment) (entries : List (Text × Files.Entry)) :
    Except Failure (Config × Text) :=
  match load env entries with
  | .error e => .error e.failure
  | .ok c => (console.print c.summary).map fun line => (c, line)

end Settings
end OpenBroker
