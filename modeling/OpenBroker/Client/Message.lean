import OpenBroker.Broker.Basic
import OpenBroker.Failure.Basic

/-!
# Messages and troubles

The client asks a broker with messages and gets replies, or it gets into trouble.
-/
namespace OpenBroker

/-! ## Messages and replies

Every call of a broker is one request: its method and its path follow from the call
alone, the path being put together from the identifiers as they are.  The reply has a
status, of which the call knows whether it means success.
-/

namespace Client

/-- The path of an instance. -/
def instancePath (instanceId : Text) : Text := "/v2/service_instances/" ++ instanceId

/-- The path of a binding. -/
def bindingPath (instanceId bindingId : Text) : Text :=
  instancePath instanceId ++ "/service_bindings/" ++ bindingId

/-- **The method and the path** that a call is made with. -/
def requestOf : Call → Text × Text
  | .catalog => ("GET", "/v2/catalog")
  | .action (.provision i) => ("PUT", instancePath i)
  | .action (.deprovision i) => ("DELETE", instancePath i)
  | .action (.bind i b) => ("PUT", bindingPath i b)
  | .action (.unbind i b) => ("DELETE", bindingPath i b)

/-- **The statuses that mean success**; the removal of what is already gone is one. -/
def successes : Call → List Nat
  | .catalog => [200]
  | .action (.provision _) => [201]
  | .action (.deprovision _) => [200, 410]
  | .action (.bind _ _) => [201]
  | .action (.unbind _ _) => [200, 410]

/-- **Message** sent to a server, with the time in seconds that a reply may take.  All
messages that have a body have the same one. -/
structure Message where
  method : Text
  url : Text
  hasBody : Bool
  timeout : Binary64
  deriving DecidableEq, Repr

namespace Message

/-- The body of messages: an empty object. -/
def content : Text := "\x7b\x7d"

/-- The body of a message, if it has one. -/
def body? (m : Message) : Option Text := if m.hasBody then some content else none

/-- The type of the body. -/
def contentType? (m : Message) : Option Text := m.body?.map fun _ => "application/json"

end Message

/-- **Reply** of a server. -/
structure ServerReply where
  status : Nat
  contentType : Text
  body : List UInt8
  location? : Option Text
  deriving DecidableEq, Repr

end Client

/-! ## Troubles of the client

What goes wrong between the client and a broker is told to the operator.  A failure that
the client is not prepared for ends it at once, without a word of its own.

A network gives its failures names.  The client is prepared for all of them but warnings,
the general failure of the layer below, and the failure to read a document, which
cannot even be made from a message alone.
-/

namespace Client

/-- **Trouble.** -/
inductive Trouble
  | complaint (reason : Text)
  | breakdown (failure : Failure)

instance : Inhabited Trouble := ⟨.complaint []⟩

namespace Trouble

/-- The warnings of a network. -/
def warnings : List Text :=
  ["RequestsWarning", "FileModeWarning", "RequestsDependencyWarning"]

/-- The failures to read a document. -/
def documentFailures : List Text := ["JSONDecodeError", "CompatJSONDecodeError"]

/-- **The trouble** that a failure of a network with a name and a message is. -/
def ofFailure (name message : Text) : Trouble :=
  if warnings.contains name then .breakdown (.standard name message)
  else if name = "BaseHTTPError" then .breakdown (.standard "HTTPError" message)
  else if documentFailures.contains name then
    .breakdown <| .ofKind
      "JSONDecodeError.__init__() missing 2 required positional arguments: 'doc' and 'pos'"
  else .complaint message

end Trouble
end Client
end OpenBroker
