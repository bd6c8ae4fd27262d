import OpenBroker.Broker.Basic
import OpenBroker.Broker.Table
import OpenBroker.Catalog
import OpenBroker.Text.Basic
import OpenBroker.Value.Document

/-!
# The memory broker

The broker that comes with the application keeps its instances and bindings in memory, and makes
up a password for every binding.
-/
namespace OpenBroker

/-! ## Passwords

A password is made of random bytes, written with six bits to a character in an
alphabet that needs no escape in an address: letters, digits, `-` and `_`.  There
is no padding, so the last character of a password may stand for two or four bits
only, at its upper end.
-/

namespace Password

/-- The character of six bits. -/
def sextet (n : Nat) : CodePoint :=
  if n < 26 then CodePoint.ofNat (0x41 + n)
  else if n < 52 then CodePoint.ofNat (0x61 + (n - 26))
  else if n < 62 then CodePoint.ofNat (0x30 + (n - 52))
  else if n = 62 then '-' else '_'

/-- The text of a sequence of bytes. -/
def write : List UInt8 → Text
  | [] => []
  | [a] => [sextet (a.toNat / 4), sextet (a.toNat % 4 * 16)]
  | [a, b] =>
    [sextet (a.toNat / 4), sextet (a.toNat % 4 * 16 + b.toNat / 16), sextet (b.toNat % 16 * 4)]
  | a :: b :: c :: rest =>
    sextet (a.toNat / 4) :: sextet (a.toNat % 4 * 16 + b.toNat / 16)
      :: sextet (b.toNat % 16 * 4 + c.toNat / 64) :: sextet (c.toNat % 64) :: write rest

/-- How many bytes a password is made of. -/
def size : Nat := 16

/-- **Password.**  The text of sixteen bytes. -/
def Is (t : Text) : Prop := ∃ bs : List UInt8, bs.length = size ∧ t = write bs

end Password

/-! ## The broker that keeps its instances in memory

The broker is an instance table with a limit on its size.  A created instance is
answered with the address of its dashboard below a common base, or with the empty
text when there is no base; a created binding with its credentials, whose password
is drawn anew.

Passwords come from a stream.  The state holds how many have been drawn, and only
a successful binding draws one, so what a run answers is a function of the stream
and of the calls alone.
-/

/-- **Setting** of a memory broker. -/
structure Memory where
  catalog : Value
  /-- The most live instances; zero is no limit. -/
  limit : Nat
  /-- What the addresses of dashboards begin with; no slash at its end. -/
  dashboardBase : Text

namespace Memory

/-- The base without the slashes at its end. -/
def trimBase (base : Text) : Text := Text.dropEndWhile (· = '/') base

/-- The complaint about a negative limit. -/
def negativeLimit : Text := "instance_limit must be >= 0"

/-- **Setting** with a catalog, or the built-in one, a limit and a base. -/
def create (catalog? : Option Value) (limit : Int) (base : Text) : Except Failure Memory :=
  if limit < 0 then .error (.standard "ValueError" negativeLimit)
  else .ok ⟨catalog?.getD (Value.ofJson Catalog.builtIn), limit.toNat, trimBase base⟩

/-- The address of an instance's dashboard. -/
def dashboard (m : Memory) (instanceId : Text) : Text :=
  if m.dashboardBase.isEmpty then [] else m.dashboardBase ++ "/instances/" ++ instanceId

/-- **State** of a memory broker: its table, and how many passwords were drawn. -/
structure State where
  table : Table
  drawn : Nat

/-- The state of a broker that was never called. -/
def fresh : State := ⟨[], 0⟩

/-- The answer that hands out credentials. -/
def credentialsAnswer (c : Credentials) : Value :=
  .mapping [(.text "credentials", .mapping
    [(.text "uri", .text c.uri), (.text "username", .text c.username),
      (.text "password", .text c.password)])]

/-- What a successful action with a password is answered with. -/
def success (m : Memory) (password : Text) : Action → Value
  | .provision i => .text (m.dashboard i)
  | .deprovision _ => .null
  | .bind i b => credentialsAnswer (Credentials.issue i b password)
  | .unbind _ _ => .null

/-- The table after an action with a password. -/
def after (m : Memory) (password : Text) : Action → Table → Except Sentinel Table
  | .provision i => Table.provision m.limit i
  | .deprovision i => Table.deprovision i
  | .bind i b => Table.bind i b password
  | .unbind i b => Table.unbind i b

/-- How many passwords a successful action draws. -/
def draws : Action → Nat
  | .bind _ _ => 1
  | _ => 0

/-- **Perform an action**, with the next password of the stream if it needs one. -/
def perform (m : Memory) (passwords : Nat → Text) (a : Action) (s : State) :
    Except Sentinel Value × State :=
  let password := passwords s.drawn
  match m.after password a s.table with
  | .ok t => (.ok (m.success password a), ⟨t, s.drawn + draws a⟩)
  | .error e => (.error e, s)

/-- **Memory broker** with a stream of passwords. -/
def broker (m : Memory) (passwords : Nat → Text) : Broker State where
  kind := "InMemoryServiceBroker"
  answer
    | .catalog, s => (.ok m.catalog, s)
    | .action a, s =>
      let (answer, s') := m.perform passwords a s
      (answer.mapError Failure.ofSentinel, s')

end Memory
end OpenBroker
