import OpenBroker.Failure.Basic
import OpenBroker.Log.Level
import OpenBroker.Text.Quoted
import OpenBroker.Keyed

/-!
# Loggers

Loggers have names with dots in them, and a logger stands below those whose names
it continues behind a dot; below all others stands the root.  A message given to a
logger is written once by each handler of the logger and of everything above it,
provided that its severity reaches the level of the logger; a logger without a level
of its own takes it from above.  Where there is no handler at all, warnings and worse
are written bare.

A logger exists from its first mention.  A new logger comes to stand between those below
it and what they stood below, unless that has a name that begins with the name of the new
one.  The root counts with its name here: loggers named with a beginning of it find
nothing that they could come between.

Configuring a logger gives it a level, and a handler if it has none; a level that is not
known changes nothing.  A logger can be watched: then a collector takes the place of its
handlers, and messages go no further up.
-/
namespace OpenBroker
namespace Log

/-- **Handler** of messages. -/
inductive Handler
  /-- Writes a message as a line. -/
  | writer
  /-- Keeps a message for the application. -/
  | collector
  deriving DecidableEq, Repr

/-- **Logger.**  What stands above it has a name; nothing stands above the root. -/
structure Logger where
  level : Level
  handlers : List Handler
  above : Text
  passesOn : Bool
  deriving DecidableEq, Repr

/-- **Registry.**  The root, and every other logger that was mentioned, by name. -/
structure Registry where
  root : Logger
  named : Keyed Logger
  deriving DecidableEq, Repr

/-- **Line** that a message was written as. -/
inductive Line
  /-- By a handler, with severity and name. -/
  | formatted (severity : Severity) (name message : Text)
  /-- As it is. -/
  | bare (message : Text)
  /-- Not written, but kept. -/
  | kept (severity : Severity) (message : Text)
  deriving DecidableEq, Repr

/-- The text of a line, behind a time where it is formatted. -/
def Line.text (time : Text) : Line → Text
  | .formatted severity name message =>
    time ++ " " ++ severity.label ++ " " ++ name ++ ": " ++ message ++ "\n"
  | .bare message => message ++ "\n"
  | .kept _ _ => []

/-- The name of the root. -/
def rootName : Text := "root"

/-- Whether a name is one of the two of the root. -/
def isRoot (name : Text) : Bool := name.isEmpty || name == rootName

/-- How lines show a logger's name. -/
def shownName (name : Text) : Text := if isRoot name then rootName else name

/-- The names above a name, given backwards, nearest first: what stands before its
last dot, and so on; of two dots side by side only the second divides. -/
def namesAbove : (reversed : Text) → List Text
  | c :: d :: before =>
    if c = '.' then (d :: before).reverse :: namesAbove before else namesAbove (d :: before)
  | _ => []

namespace Registry

/-- **The registry at the start**: a root that lets warnings pass, without
handlers. -/
def initial : Registry := ⟨⟨Severity.warning.level, [], rootName, true⟩, []⟩

/-- The nearest existing logger above a name. -/
def above (r : Registry) (name : Text) : Text :=
  ((namesAbove name.reverse).find? fun n => Keyed.has n r.named).getD rootName

/-- A logger that was only mentioned. -/
def mentioned (r : Registry) (name : Text) : Logger := ⟨Level.unset, [], r.above name, true⟩

/-- The logger of a name. -/
def logger (r : Registry) (name : Text) : Logger :=
  if isRoot name then r.root else (Keyed.find? name r.named).getD (r.mentioned name)

/-- The registry with a logger replaced. -/
def set (r : Registry) (name : Text) (l : Logger) : Registry :=
  if isRoot name then { r with root := l } else { r with named := Keyed.put name l r.named }

/-- A logger with a name after another one was mentioned: what it stands below may have
changed. -/
def reparented (new name : Text) (l : Logger) : Logger :=
  if (namesAbove name.reverse).contains new && !Text.startsWith new l.above then
    { l with above := new }
  else l

/-- The registry with a logger of the name. -/
def mention (r : Registry) (name : Text) : Registry :=
  if isRoot name || Keyed.has name r.named then r
  else
    { r with
      named := Keyed.put name (r.mentioned name)
        (r.named.map fun e => (e.1, reparented name e.1 e.2)) }

/-- A logger and those above it, nearest first.  The first argument bounds their
number. -/
def lineage (r : Registry) : Nat → Text → List Logger
  | 0, _ => []
  | bound + 1, name =>
    let l := r.logger name
    l :: if isRoot name then [] else r.lineage bound l.above

/-- A logger and everything above it. -/
def chain (r : Registry) (name : Text) : List Logger := r.lineage (name.length + 2) name

/-- The level that counts for a logger. -/
def effectiveLevel (r : Registry) (name : Text) : Level :=
  (((r.chain name).map Logger.level).find? (· != Level.unset)).getD Level.unset

/-- The loggers up to the first that passes nothing on. -/
def passing : List Logger → List Logger
  | [] => []
  | l :: rest => l :: if l.passesOn then passing rest else []

/-- The handlers that a message of a logger reaches. -/
def reached (r : Registry) (name : Text) : List Handler :=
  (passing (r.chain name)).flatMap Logger.handlers

/-- **The lines** a message is written as. -/
def lines (r : Registry) (name : Text) (severity : Severity) (message : Text) : List Line :=
  if severity.level < r.effectiveLevel name then []
  else
    match r.reached name with
    | [] => if severity.level < Severity.warning.level then [] else [.bare message]
    | handlers =>
      handlers.map fun
        | .writer => .formatted severity (shownName name) message
        | .collector => .kept severity message

/-- **Emit** a message: its lines, and the registry with the logger mentioned. -/
def emit (r : Registry) (name : Text) (severity : Severity) (message : Text) :
    List Line × Registry :=
  let r' := r.mention name
  (r'.lines name severity message, r')

/-- **Emit** several messages of one severity, one after the other. -/
def emitAll (name : Text) (severity : Severity) : List Text → Registry → List Line × Registry
  | [], r => ([], r)
  | message :: rest, r =>
    let (lines, r') := r.emit name severity message
    let (more, last) := emitAll name severity rest r'
    (lines ++ more, last)

/-- **Configure** a logger with a level in words: it gets the level, and a handler if
it has none. -/
def configure (r : Registry) (name level : Text) : Except Failure Registry :=
  match Level.ofText? level with
  | none =>
    .error (.standard "ValueError" ("Unknown level: " ++ Text.quoted (Level.placeholder level)))
  | some n =>
    let r := r.mention name
    let l := r.logger name
    .ok (r.set name
      { l with level := n, handlers := if l.handlers.isEmpty then [.writer] else l.handlers })

/-- **Watch** a logger: a collector takes its messages, and no other handler. -/
def watch (r : Registry) (name : Text) : Registry :=
  let r := r.mention name
  r.set name { r.logger name with handlers := [.collector], passesOn := false }

/-- The registry after an attempt to configure a logger; a refused one mentions it
only. -/
def attempt (r : Registry) (name level : Text) : Registry :=
  match r.configure name level with
  | .ok r' => r'
  | .error _ => r.mention name

end Registry
end Log
end OpenBroker
