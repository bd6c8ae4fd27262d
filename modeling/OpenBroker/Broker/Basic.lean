import OpenBroker.Failure.Basic

/-!
# Brokers

A broker owns the instances and bindings of a service.  It offers five
operations: it shows its catalog, and it creates and removes instances and
bindings.  Nothing is known of a broker but what it answers: an operation returns
a value or raises a failure, and either answer may depend on everything the
broker was asked before.  A broker is therefore a state together with an answer,
in any state, to any call.
-/
namespace OpenBroker
/-- **Operation** on instances and bindings. -/
inductive Operation
  | provision
  | deprovision
  | bind
  | unbind
  deriving DecidableEq, Repr

/-- **Action.**  An operation with the identifiers it is about. -/
inductive Action
  | provision (instanceId : Text)
  | deprovision (instanceId : Text)
  | bind (instanceId bindingId : Text)
  | unbind (instanceId bindingId : Text)
  deriving DecidableEq, Repr

namespace Operation

/-- The operation's name. -/
def name : Operation → Text
  | provision => "provision"
  | deprovision => "deprovision"
  | bind => "bind"
  | unbind => "unbind"

/-- The operation of a name. -/
def ofName? (t : Text) : Option Operation :=
  [provision, deprovision, bind, unbind].find? (·.name = t)

/-- The action of an operation on the given identifiers; the binding counts only
where the operation is about one. -/
def on (op : Operation) (instanceId bindingId : Text) : Action :=
  match op with
  | provision => .provision instanceId
  | deprovision => .deprovision instanceId
  | bind => .bind instanceId bindingId
  | unbind => .unbind instanceId bindingId

end Operation

namespace Action

/-- The operation of an action. -/
def operation : Action → Operation
  | provision _ => .provision
  | deprovision _ => .deprovision
  | bind _ _ => .bind
  | unbind _ _ => .unbind

/-- The instance an action is about. -/
def instanceId : Action → Text
  | provision i | deprovision i | bind i _ | unbind i _ => i

/-- The identifiers of an action, in order. -/
def ids : Action → List Text
  | provision i | deprovision i => [i]
  | bind i b | unbind i b => [i, b]

end Action

/-- **Call** of a broker. -/
inductive Call
  | catalog
  | action (a : Action)
  deriving DecidableEq, Repr

/-- The name of the called operation, then its identifiers. -/
def Call.words : Call → List Text
  | .catalog => ["catalog"]
  | .action a => a.operation.name :: a.ids

/-- **Broker** with states of type `σ`. -/
structure Broker (σ : Type) where
  /-- The name of the kind of broker. -/
  kind : Text
  /-- The answer to a call in a state, and the state after it. -/
  answer : Call → σ → Except Failure Value × σ

/-- The operations every kind of broker has to define. -/
def requiredOperations : List Text := ["catalog", "provision", "deprovision", "bind", "unbind"]

/-- The required operations missing among the defined ones, by name. -/
def missingOperations (defined : List Text) : List Text :=
  let required : List Text := ["bind", "catalog", "deprovision", "provision", "unbind"]
  required.filter fun op => !defined.contains op

/-- The complaint about a kind of broker with missing operations. -/
def missingOperationsMessage (kind : Text) (missing : List Text) : Text :=
  let plural : Text := if missing.length = 1 then [] else "s"
  "Can't instantiate abstract class " ++ kind ++ " with abstract method" ++ plural ++ " "
    ++ Text.join ", " missing

/-! ## Brokers that follow a script

A script lists for each operation what its calls are answered with, one after the
other; the last answer of a list is given again to every later call.  An
operation without answers returns nothing.  Scripted brokers stand in for brokers
of any behaviour.
-/

/-- **Script.**  The answers that are still to be given, by operation. -/
structure Script where
  catalog : List (Except Failure Value)
  provision : List (Except Failure Value)
  deprovision : List (Except Failure Value)
  bind : List (Except Failure Value)
  unbind : List (Except Failure Value)

namespace Script

/-- The next answer of a list, and the list after it. -/
def next : List (Except Failure Value) → Except Failure Value × List (Except Failure Value)
  | [] => (.ok .null, [])
  | [last] => (last, [last])
  | answer :: rest => (answer, rest)

/-- **Scripted broker.** -/
def broker : Broker Script where
  kind := "ScriptedBroker"
  answer
    | .catalog, s => let (r, rest) := next s.catalog; (r, { s with catalog := rest })
    | .action (.provision _), s =>
      let (r, rest) := next s.provision; (r, { s with provision := rest })
    | .action (.deprovision _), s =>
      let (r, rest) := next s.deprovision; (r, { s with deprovision := rest })
    | .action (.bind _ _), s => let (r, rest) := next s.bind; (r, { s with bind := rest })
    | .action (.unbind _ _), s => let (r, rest) := next s.unbind; (r, { s with unbind := rest })

end Script
end OpenBroker
