import OpenBroker.Failure.Class
import OpenBroker.Keyed

/-!
# The table of instances

A broker that keeps its instances itself has a table: the live instances in the
order in which they were created, each with its bindings in the order in which
they were created, each binding with its credentials.

The four operations are functions on tables.  Each either gives the table after
it or reports the condition that prevents it, and then there is no new table.  The
conditions are tried in the order in which they are listed with the operation.
-/
namespace OpenBroker

/-- **Credentials** of a binding. -/
structure Credentials where
  uri : Text
  username : Text
  password : Text
  deriving DecidableEq, Repr

/-- The credentials of a binding on an instance, with a password. -/
def Credentials.issue (instanceId bindingId password : Text) : Credentials :=
  ⟨"memory://" ++ instanceId, bindingId, password⟩

/-- **Bindings** of one instance. -/
abbrev Bindings := Keyed Credentials

/-- **Instance table.** -/
abbrev Table := Keyed Bindings

namespace Table

/-- The number of live instances has reached a limit; zero limits nothing. -/
def isFull (limit : Nat) (t : Table) : Bool := limit != 0 && limit ≤ t.length

/-- **Create an instance**, unless it exists or the limit is reached. -/
def provision (limit : Nat) (i : Text) (t : Table) : Except Sentinel Table :=
  if Keyed.has i t then .error .instanceAlreadyExists
  else if t.isFull limit then .error .instanceLimitReached
  else .ok (Keyed.put i [] t)

/-- **Remove an instance** and its bindings with it, unless it does not exist. -/
def deprovision (i : Text) (t : Table) : Except Sentinel Table :=
  if Keyed.has i t then .ok (Keyed.erase i t) else .error .instanceDoesNotExist

/-- **Create a binding** with the given password, unless the instance does not
exist or the binding does. -/
def bind (i b password : Text) (t : Table) : Except Sentinel Table :=
  match Keyed.find? i t with
  | none => .error .instanceDoesNotExist
  | some bindings =>
    if Keyed.has b bindings then .error .bindingAlreadyExists
    else .ok (Keyed.put i (Keyed.put b (Credentials.issue i b password) bindings) t)

/-- **Remove a binding**, unless the instance or the binding does not exist. -/
def unbind (i b : Text) (t : Table) : Except Sentinel Table :=
  match Keyed.find? i t with
  | none => .error .instanceDoesNotExist
  | some bindings =>
    if Keyed.has b bindings then .ok (Keyed.put i (Keyed.erase b bindings) t)
    else .error .bindingDoesNotExist

/-- The live instances, in order. -/
def instanceIds (t : Table) : List Text := Keyed.keys t

/-- The bindings of a live instance, in order. -/
def bindingIds (i : Text) (t : Table) : Except Sentinel (List Text) :=
  match Keyed.find? i t with
  | none => .error .instanceDoesNotExist
  | some bindings => .ok (Keyed.keys bindings)

/-- The number of bindings of all instances. -/
def bindingCount (t : Table) : Nat := t.foldr (fun e n => e.2.length + n) 0

end Table
end OpenBroker
