import OpenBroker.Client.Session
import OpenBroker.Http.Service
import OpenBroker.Keyed

/-!
# Networks

Between the client and an application there is a wire with bytes on it, or nothing at all.
-/
namespace OpenBroker

/-! ## Messages on the wire

A message is sent as a request of version 1.0, one to a connection, so that a reply ends
where the connection does.  A reply is a status line and header lines up to the first
empty line, and then its body.
-/

namespace Client

/-- The host and the number of the socket to connect to: the user in front of the host is
left out, and the number that belongs to the scheme is taken where there is none. -/
def Reference.endpoint (r : Reference) : Text × Nat :=
  let (_, host) := Url.cutLast '@' r.authority
  let usual : Nat := if r.scheme = "https" then 443 else 80
  match Url.cutLast ':' host with
  | (some name, digits) =>
    if digits.all CodePoint.isAsciiDigit && !digits.isEmpty then (name, Decimal.toNat digits)
    else (host, usual)
  | (none, _) => (host, usual)

/-- **The bytes of a message** to a host. -/
def Message.bytes (m : Message) (host : Text) : List UInt8 :=
  let body := m.body?.getD []
  let typeLine : Text := match m.contentType? with
    | some t => "Content-Type: " ++ t ++ "\r\n"
    | none => []
  Utf8.encode <|
    m.method ++ " " ++ m.target ++ " HTTP/1.0\r\nHost: " ++ host ++ "\r\n" ++ typeLine
      ++ "Content-Length: " ++ Decimal.ofNat body.length ++ "\r\nConnection: close\r\n\r\n"
      ++ body

namespace ServerReply

/-- What stands before and behind the first empty line. -/
def cutHead : List UInt8 → Option (List UInt8 × List UInt8)
  | 13 :: 10 :: 13 :: 10 :: body => some ([], body)
  | b :: rest => (cutHead rest).map fun (head, body) => (b :: head, body)
  | [] => none

/-- A header line: its name in lower case, and its value. -/
def header? (line : Text) : Option (Text × Text) :=
  match Text.cut ':' line with
  | (name, some value) => some (Text.asciiLower name, Text.strip value)
  | (_, none) => none

/-- The status in a status line. -/
def status? (line : Text) : Option Nat :=
  match Text.split ' ' line with
  | version :: code :: _ =>
    if Text.startsWith "HTTP/" version && code.length == 3 && code.all CodePoint.isAsciiDigit then
      some (Decimal.toNat code)
    else none
  | _ => none

/-- **The reply in the bytes** of a connection. -/
def ofBytes? (bytes : List UInt8) : Option ServerReply := do
  let (head, body) ← cutHead bytes
  let lines := (Text.split '\n' (head.map fun b => CodePoint.ofNat b.toNat)).map Text.strip
  let status ← status? (lines.headD [])
  let headers := (lines.drop 1).filterMap header?
  some ⟨status, (Keyed.find? "content-type" headers).getD [], body,
    Keyed.find? "location" headers⟩

end ServerReply
end Client

/-! ## An application as a network

A client and an application can be put together without a network between them: the
application receives every message itself, and its reply reaches the client unaltered.
This is the network that loses nothing, with the broker's state for its own, and what is
true of the client over it is true of the two programs themselves.
-/

namespace Client

/-- The request that a message is received as. -/
def Message.request (m : Message) : Http.Request := .ofTarget m.method m.target

/-- A reply of an application as the client receives it. -/
def ServerReply.ofReply (r : Http.Reply) : ServerReply :=
  ⟨r.status, r.contentType?.getD [], Utf8.encode r.body, r.location?⟩

/-- What serving a message gives the client: the reply, or the reason why there is none. -/
def received (s : Http.Served) : Except Trouble ServerReply :=
  (s.reply.map ServerReply.ofReply).mapError Trouble.breakdown

variable {σ : Type}

/-- **The application over a broker as a network.**  It takes every message, with whatever timeout.
A library that sends messages over a wire refuses some timeouts before it sends anything: zero, the
negative ones, and those that are no finite numbers.  That is a failure of such a network and not of
this one, which never waits. -/
def direct (broker : Broker σ) : Network (StateM σ) := fun m => do
  let (served, s) := Http.serve broker m.request (← get)
  set s
  return received served

end Client
end OpenBroker
