import OpenBroker.Client.Body
import OpenBroker.Client.Url

/-!
# Asking a broker

A call of a broker is a request, and more requests as long as the replies lead elsewhere.
-/
namespace OpenBroker

/-! ## Following replies

A reply of some statuses may refer to another address.  The reference is read against
the address that was asked, and the request is repeated there.  Only two statuses ask
for the same request; after the others it has no body, and after two of those it is one
for reading.

An address to follow is not prepared again: it may have dot segments, and a host in
capital letters.
-/

namespace Client

/-- What a server is asked for with a message: the path and the query of the address. -/
def Message.target (m : Message) : Text :=
  match Reference.ofText [] m.url with
  | .ok r => r.target
  | .error _ => "/"

/-- **A reference as it was meant**: headers are read as Latin-1, but references are
written in UTF-8. -/
def meantReference (t : Text) : Except Failure Text :=
  if t.all (·.val < 0x100) then
    let bytes := t.map fun c => UInt8.ofNat c.val
    (Utf8.decode bytes).mapError (Failure.undecodable bytes)
  else .error (.unwritable "latin-1" "ordinal not in range(256)" (·.val < 0x100) t)

/-- The statuses whose replies are followed. -/
def followedStatuses : List Nat := [301, 302, 303, 307, 308]

/-- The reference of a reply that is to be followed, if there is one. -/
def ServerReply.reference? (r : ServerReply) : Except Failure (Option Text) :=
  match followedStatuses.contains r.status, r.location? with
  | true, some location =>
    (meantReference location).map fun t => if t.isEmpty then none else some t
  | _, _ => .ok none

/-- **The address that a reference leads to**, from an address and with the fragment to
be kept; and the fragment that is kept from there on. -/
def followed (address fragment t : Text) : Except Reference.Fault (Text × Text) := do
  let here ← Reference.ofText [] address
  let t : Text := if Text.startsWith "//" t then here.scheme ++ ":" ++ t else t
  let r ← Reference.ofText [] t
  let fragment : Text := if r.fragment.isEmpty then fragment else r.fragment
  let t := Url.canonical (Reference.text { r with fragment := fragment })
  let t ← if r.authority.isEmpty then Reference.resolve address t else .ok t
  let _ ← Reference.ofText [] t
  .ok (t, fragment)

/-- The method that a request is repeated with after a status. -/
def methodAfter (status : Nat) (method : Text) : Text :=
  if status = 302 ∨ status = 303 then "GET" else method

/-- Whether a request is repeated with its body after a status. -/
def keepsBody (status : Nat) : Bool := status == 307 || status == 308

/-- **The message that a reply asks for**, if it asks for one, and the fragment that is
kept from there on. -/
def next? (fragment : Text) (m : Message) (r : ServerReply) :
    Except Failure (Option (Message × Text)) := do
  let _ ← r.charset?
  match ← r.reference? with
  | none => .ok none
  | some t =>
    let (url, fragment) ← (followed m.url fragment t).mapError Reference.Fault.failure
    .ok (some
      (⟨methodAfter r.status m.method, url, m.hasBody && keepsBody r.status, m.timeout⟩,
        fragment))

end Client

/-! ## Sending

Every call of a broker is one request.  A reply that refers to another address is
followed there, and so on, up to a limit.

What a network does with a request is not fixed here.  It answers with a reply or with
the reason why there is none, in any monad: in a program by input and output, in a
theory as a function of some state.
-/

namespace Client

/-- **Network**: what becomes of a message. -/
abbrev Network (m : Type → Type) := Message → m (Except Trouble ServerReply)

/-- What came of a request: the messages that were sent, and the last reply. -/
abbrev Exchange := List Message × Except Trouble ServerReply

/-- The most times that a request is repeated elsewhere. -/
def followLimit : Nat := 30

/-- The complaint about too many references. -/
def followedTooOften : Text := "Exceeded " ++ Decimal.ofNat followLimit ++ " redirects."

variable {m : Type → Type} [Monad m]

/-- **Send a message once**, and go on with the message that its reply asks for, if it asks for
one. -/
def sendOnce (network : Network m) (goOn : Text → Message → m Exchange) (fragment : Text)
    (message : Message) : m Exchange := do
  match Url.check message.url with
  | .error trouble => return ([], .error trouble)
  | .ok _ =>
    match ← network message with
    | .error trouble => return ([message], .error trouble)
    | .ok reply =>
      match next? fragment message reply with
      | .error f => return ([message], .error (.breakdown f))
      | .ok none => return ([message], .ok reply)
      | .ok (some (next, fragment)) =>
        let (messages, last) ← goOn fragment next
        return (message :: messages, last)

/-- **Send** a message, and follow its replies at most so many times.  A fragment is kept
that the addresses to follow have as long as they have none of their own. -/
def send (network : Network m) : (follows : Nat) → (fragment : Text) → Message → m Exchange
  | 0 => sendOnce network fun _ _ => return ([], .error (.complaint followedTooOften))
  | follows + 1 => sendOnce network (send network follows)

/-- The fragment of an address. -/
def fragmentOf (address : Text) : Text := ((Text.cut '#' address).2).getD []

/-- The address of a path below the address of a broker, whose slashes at the end do not
count. -/
def addressOf (broker path : Text) : Text := Text.dropEndWhile (· = '/') broker ++ path

/-- **Call** a broker at an address, where every reply may take so much time. -/
def call (network : Network m) (broker : Text) (timeout : Binary64) (c : Call) : m Exchange :=
  let (method, path) := requestOf c
  match Url.prepare (addressOf broker path) with
  | .error trouble => return ([], .error trouble)
  | .ok url => send network followLimit (fragmentOf url) ⟨method, url, true, timeout⟩

end Client
end OpenBroker
