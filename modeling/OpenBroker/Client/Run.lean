import OpenBroker.Client.Body
import OpenBroker.Client.CommandLine
import OpenBroker.Client.Session
import OpenBroker.Number.Decimal
import OpenBroker.Settings

/-!
# Running the client

A run reads a command line, calls the broker, prints the reply and ends with a code:
zero if the status of the reply means success, one if it does not or there is no reply,
two for a command line that cannot be used.  Help is no failure, and neither is a
command line without a command, which shows the help.

A failure that the client is not prepared for ends a run without a code, unless it is
a request to end with one.
-/
namespace OpenBroker
namespace Client

/-- The name of the program. -/
def program : Text := "broker_cli.py"

/-- The address of the broker. -/
def brokerOption : CommandOption := ⟨["--broker-url"], .text, false⟩

/-- How long a reply may take. -/
def timeoutOption : CommandOption := ⟨["--timeout"], .real, false⟩

/-- The instance that a command is about. -/
def instanceOption : CommandOption := ⟨["--instance-id"], .text, true⟩

/-- The binding that a command is about. -/
def bindingOption : CommandOption := ⟨["--binding-id"], .text, true⟩

/-- The options of every command. -/
def commandOptions : List (Text × List CommandOption) :=
  [("catalog", []), ("provision", [instanceOption]), ("deprovision", [instanceOption]),
    ("bind", [instanceOption, bindingOption]), ("unbind", [instanceOption, bindingOption])]

/-- **The grammar** of the client. -/
def grammar : Grammar :=
  ⟨program, "Service broker API client", [.help, brokerOption, timeoutOption],
    commandOptions.map (·.1)⟩

/-- The grammar of one of its commands. -/
def commandGrammar (name : Text) (options : List CommandOption) : Grammar :=
  ⟨program ++ " " ++ name, [], .help :: options, []⟩

/-- **Order** given on a command line. -/
structure Order where
  broker : Text
  timeout : Binary64
  call : Call
  deriving DecidableEq, Repr

/-- The address of the broker if none is given. -/
def defaultBroker : Text := "http://localhost:5000"

/-- The time in seconds that a reply may take if none is given. -/
def defaultTimeout : Binary64 := Binary64.ofDecimal false 10 0

/-- The call of a command with its identifiers. -/
def callOf (name instanceId bindingId : Text) : Call :=
  match Operation.ofName? name with
  | some op => .action (op.on instanceId bindingId)
  | none => .catalog

/-- The call that a command and its arguments give, and the arguments left over. -/
def readCommand (name : Text) (arguments : List Text) : Except Halt (Call × List Text) :=
  match commandOptions.lookup name with
  | none => .error (.fault grammar (.unknownCommand name grammar.commands))
  | some options => do
    let l ← (commandGrammar name options).read arguments
    let value (o : CommandOption) : Text := (l.value? o).getD []
    .ok (callOf name (value instanceOption) (value bindingOption), l.leftOver)

/-- **Read an order**; nothing is ordered by a command line without a command. -/
def readOrder (env : Environment) (arguments : List Text) : Except Halt (Option Order) := do
  let l ← grammar.read arguments
  let command? ← match l.command? with
    | none => .ok none
    | some (name, arguments) => (readCommand name arguments).map some
  let leftOver := l.leftOver ++ (command?.map (·.2)).getD []
  if leftOver.isEmpty then
    .ok <| command?.map fun (call, _) =>
      ⟨(l.value? brokerOption).getD ((Keyed.find? "BROKER_URL" env).getD defaultBroker),
        ((l.value? timeoutOption).bind Literal.real?).getD defaultTimeout, call⟩
  else .error (.fault grammar (.leftOver leftOver))

/-- **Result** of a run: the code, or the failure that ended it. -/
structure Result where
  ending : Except Failure Int
  output : Text
  errors : Text
  messages : List Message

namespace Result

/-- The result of a run that asked no broker. -/
def silent (code : Int) (output errors : Text) : Result := ⟨.ok code, output, errors, []⟩

/-- The result of a run whose command line could not be used, or asked for help. -/
def ofHalt : Halt → Result
  | .help g => silent 0 g.help []
  | .fault g f => silent 2 [] (Halt.fault g f).text

/-- The name of a call in complaints. -/
def callName (c : Call) : Text := c.words.headD []

/-- How a failure ends a run: a request to end is one with a code. -/
def endingOf (f : Failure) : Except Failure Int :=
  match f with
  | .raised cls args =>
    if cls.taker = .exit then
      match args with
      | [] | [.null] => .ok 0
      | [.int n] => .ok n
      | _ => .ok 1
    else .error f
  | .http _ | .own _ _ _ => .error f

/-- The result of an exchange for an order. -/
def ofExchange (o : Order) : Exchange → Result
  | (messages, .ok reply) =>
    match reply.printed with
    | .ok output =>
      ⟨.ok (if (successes o.call).contains reply.status then 0 else 1), output, [], messages⟩
    | .error f => ⟨endingOf f, [], [], messages⟩
  | (messages, .error (.complaint reason)) =>
    ⟨.ok 1, [], "[" ++ callName o.call ++ "] Error: " ++ reason ++ "\n", messages⟩
  | (messages, .error (.breakdown f)) => ⟨endingOf f, [], [], messages⟩

end Result

variable {m : Type → Type} [Monad m]

/-- **Carry out** an order. -/
def carryOut (network : Network m) (o : Order) : m Result :=
  return Result.ofExchange o (← call network o.broker o.timeout o.call)

/-- **Run** the client. -/
def run (network : Network m) (env : Environment) (arguments : List Text) : m Result :=
  match readOrder env arguments with
  | .error halt => return Result.ofHalt halt
  | .ok none => return Result.silent 0 grammar.help []
  | .ok (some order) => carryOut network order

end Client
end OpenBroker
