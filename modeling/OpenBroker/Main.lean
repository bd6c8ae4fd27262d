import OpenBroker.Client.Network
import OpenBroker.Client.Run
import OpenBroker.Failure.Message
import Std.Async

/-!
# The client as a program

The program runs the client over connections of its own.  Input and output happen here and
nowhere else.
-/
namespace OpenBroker
namespace Program

open Std.Async Client

/-- The reply to a message that could not be exchanged, for a reason. -/
def unreachable (m : Message) (reason : String) : Except Trouble ServerReply :=
  .error (.complaint ("No reply from " ++ m.url ++ ": " ++ Text.ofString reason))

/-- Everything that is received until the connection ends. -/
partial def receive (socket : TCP.Socket.Client) (received : ByteArray) : Async ByteArray := do
  match ← socket.recv? 65536 with
  | some bytes => receive socket (received ++ bytes)
  | none => return received

/-- The address of a numbered socket of a host. -/
def socketAddress (host : Std.Net.IPAddr) (number : Nat) : Std.Net.SocketAddress :=
  match host with
  | .v4 a => .v4 ⟨a, UInt16.ofNat number⟩
  | .v6 a => .v6 ⟨a, UInt16.ofNat number⟩

/-- One exchange of bytes with the host of an address. -/
def converse (m : Message) (r : Reference) : Async (Except Trouble ServerReply) := do
  let (host, number) := r.endpoint
  let found ← DNS.getAddrInfo (Text.toString host) ""
  match found[0]? with
  | none => return unreachable m "unknown host"
  | some address =>
    let socket ← TCP.Socket.Client.mk
    socket.connect (socketAddress address number)
    socket.send ⟨(m.bytes host).toArray⟩
    let received ← receive socket .empty
    match ServerReply.ofBytes? received.toList with
    | some reply => return .ok reply
    | none => return unreachable m "malformed reply"

/-- The time that a reply may take, if it is bounded. -/
def bound? (m : Message) : Option Std.Time.Millisecond.Offset :=
  match m.timeout.meaning with
  | .finite false significand exponent =>
    let thousandths := 1000 * significand * Nat.pow 2 exponent.toNat / Nat.pow 2 (-exponent).toNat
    some (.ofNat thousandths)
  | _ => none

/-- **The network** of the operating system. -/
def network : Network IO := fun m => do
  match Reference.ofText [] m.url with
  | .error f => return .error (.breakdown f.failure)
  | .ok r =>
    if r.scheme = "https" then return unreachable m "no secure connections"
    try
      match bound? m with
      | none => (converse m r).block
      | some time =>
        let late : Async (Except Trouble ServerReply) := do
          sleep time
          return unreachable m "timed out"
        (Async.race (converse m r) late).block
    catch e => return unreachable m (toString e)

/-- The environment, as far as the client looks at it. -/
def environment : IO Environment := do
  match ← IO.getEnv "BROKER_URL" with
  | some url => return [("BROKER_URL", url)]
  | none => return []

/-- Runs the client, prints what it says, and gives its code. -/
def start (arguments : List String) : IO UInt32 := do
  let result ← Client.run network (← environment) (arguments.map Text.ofString)
  IO.print (Text.toString result.output)
  IO.eprint (Text.toString result.errors)
  match result.ending with
  | .ok code => return UInt32.ofNat (code % 256).toNat
  | .error f =>
    IO.eprintln (Text.toString (f.className ++ ": " ++ f.reported))
    return 1

end Program
end OpenBroker

/-- Runs the client with the arguments of the program. -/
def main (arguments : List String) : IO UInt32 := OpenBroker.Program.start arguments
