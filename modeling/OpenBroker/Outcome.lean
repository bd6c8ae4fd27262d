import OpenBroker.Broker.Basic
import OpenBroker.Failure.Message
import OpenBroker.Value.Basic

/-!
# Outcomes

An action on a broker has exactly one outcome: it succeeded, it failed in one of
the ways its operation knows, or it failed in a way the operation does not know.
The last kind keeps the message of the failure as it was; only a failure that cannot say what it
is has no outcome at all.

Each operation has its own four outcomes (`Outcome.Of`).  A failure that another
operation would recognise is unexpected in this one.
-/
namespace OpenBroker
/-- **Outcome** of an action. -/
inductive Outcome
  | provisioned (dashboard : Value)
  | deprovisioned
  | bound (credentials : Value)
  | unbound
  | instanceAlreadyExists (instanceId : Text)
  | instanceLimitReached
  | instanceDoesNotExist (instanceId : Text)
  | bindingAlreadyExists (bindingId : Text)
  | bindingDoesNotExist (bindingId : Text)
  | unexpected (message : Text)

namespace Outcome

/-- **The outcomes of an operation.** -/
def Of : Operation → Outcome → Prop
  | .provision, provisioned _ => True
  | .provision, instanceAlreadyExists _ => True
  | .provision, instanceLimitReached => True
  | .deprovision, deprovisioned => True
  | .deprovision, instanceDoesNotExist _ => True
  | .bind, bound _ => True
  | .bind, instanceDoesNotExist _ => True
  | .bind, bindingAlreadyExists _ => True
  | .unbind, unbound => True
  | .unbind, instanceDoesNotExist _ => True
  | .unbind, bindingDoesNotExist _ => True
  | _, unexpected _ => True
  | _, _ => False

/-- The name of an outcome. -/
def name : Outcome → Text
  | provisioned _ => "Provisioned"
  | deprovisioned => "Deprovisioned"
  | bound _ => "Bound"
  | unbound => "Unbound"
  | instanceAlreadyExists _ => "InstanceAlreadyExists"
  | instanceLimitReached => "InstanceLimitReached"
  | instanceDoesNotExist _ => "InstanceDoesNotExist"
  | bindingAlreadyExists _ => "BindingAlreadyExists"
  | bindingDoesNotExist _ => "BindingDoesNotExist"
  | unexpected _ => "Unexpected"

/-- What an outcome carries, under the name of it. -/
def field? : Outcome → Option (Text × Value)
  | provisioned v => some ("dashboard_url", v)
  | bound v => some ("credentials", v)
  | instanceAlreadyExists i | instanceDoesNotExist i => some ("instance_id", .text i)
  | bindingAlreadyExists b | bindingDoesNotExist b => some ("binding_id", .text b)
  | unexpected m => some ("message", .text m)
  | deprovisioned | unbound | instanceLimitReached => none

/-- **Equality of outcomes**: the same kind, carrying equal values. -/
def same (a b : Outcome) : Bool :=
  a.name == b.name &&
    match a.field?, b.field? with
    | some (_, v), some (_, w) => Value.same v w
    | none, none => true
    | _, _ => false

/-- **Display** of an outcome in messages, if what it carries can be shown. -/
def display (o : Outcome) : Except Complaint Text :=
  match o.field? with
  | some (field, v) => v.display.map fun shown => o.name ++ "(" ++ field ++ "=" ++ shown ++ ")"
  | none => .ok (o.name ++ "()")

end Outcome

/-! ## Capturing an outcome

The answer of a broker becomes an outcome by comparing a failure with the
sentinels its operation recognises, in a fixed order, and taking the first it
belongs to.  A failure that belongs to none of them is unexpected; one that cannot
be caught at all is no outcome and passes on.  Of an unexpected failure the message is taken, and
where saying it fails, that failure passes on.

A dashboard address that is missing or empty in any way counts as the empty text; where it cannot be
told whether it is, the complaint about that passes on.
Credentials are kept as they are, and only missing ones become an empty
mapping.
-/

namespace Outcome

/-- **Recognised failures** of an action, in the order in which they are tried,
with their outcomes. -/
def recognised : Action → List (Sentinel × Outcome)
  | .provision i =>
    [(.instanceAlreadyExists, instanceAlreadyExists i),
      (.instanceLimitReached, instanceLimitReached)]
  | .deprovision i => [(.instanceDoesNotExist, instanceDoesNotExist i)]
  | .bind i b =>
    [(.instanceDoesNotExist, instanceDoesNotExist i),
      (.bindingAlreadyExists, bindingAlreadyExists b)]
  | .unbind i b =>
    [(.instanceDoesNotExist, instanceDoesNotExist i),
      (.bindingDoesNotExist, bindingDoesNotExist b)]

/-- The outcome of a failure that can be caught, or the failure of saying what it is. -/
def ofFailure (a : Action) (f : Failure) : Except Failure Outcome :=
  match (recognised a).find? fun e => f.isA e.1 with
  | some (_, o) => .ok o
  | none => f.message.map unexpected

/-- The outcome of a returned value, if it can be told whether an address is missing. -/
def ofValue (a : Action) (v : Value) : Except Complaint Outcome :=
  match a.operation with
  | .provision => v.truth.map fun something => provisioned (if something then v else .text [])
  | .deprovision => .ok deprovisioned
  | .bind =>
    .ok (bound (match v with
      | .null => .mapping []
      | v => v))
  | .unbind => .ok unbound

/-- **Capture** the answer to an action: its outcome, or the failure that is not caught. -/
def capture (a : Action) : Except Failure Value → Except Failure Outcome
  | .ok v => (ofValue a v).mapError .ofComplaint
  | .error f => if f.isOrdinary then ofFailure a f else .error f

end Outcome

/-! ## What an outcome is answered with

An outcome is answered with a status, a body and, if it is a failure, a line for
the log.  The statuses follow the service broker contract: 409 for what already
exists, 410 for a removal of what is already gone, 404 for a binding on an instance
that was never there, 500 for a reached limit and for everything unexpected.  The
message of an unexpected failure is shown to the client unchanged.

Every line names its operation first, so lines of different operations differ.
-/

/-- **Wire answer** to an outcome. -/
structure WireAnswer where
  status : Nat
  body : Value
  logLine : Option Text

namespace WireAnswer

/-- How log lines name an operation. -/
def label : Operation → Text
  | .provision => "Provisioning"
  | .deprovision => "Deprovisioning"
  | .bind => "Binding"
  | .unbind => "Unbinding"

/-- An empty body. -/
def empty : Value := .mapping []

/-- A body that consists of a description. -/
def described (description : Text) : Value := .mapping [(.text "description", .text description)]

/-- The log line of an operation that failed for a reason. -/
def line (op : Operation) (reason : Text) : Option Text := some (label op ++ " error: " ++ reason)

/-- The description of a reached limit. -/
def limitReached : Text := "instance limit for this service has been reached"

/-- The description of a missing instance. -/
def noInstance : Text := "instance does not exist"

/-- The description of a binding that is already there. -/
def bindingExists : Text := "binding already exists"

/-- **Wire answer** to an outcome of an operation; nothing for what is no outcome
of the operation. -/
def of (op : Operation) (o : Outcome) : Option WireAnswer :=
  match op, o with
  | .provision, .provisioned url => some ⟨201, .mapping [(.text "dashboard_url", url)], none⟩
  | .provision, .instanceAlreadyExists i =>
    some ⟨409, empty, line op ("instance " ++ i ++ " already exists")⟩
  | .provision, .instanceLimitReached => some ⟨500, described limitReached, line op limitReached⟩
  | .deprovision, .deprovisioned => some ⟨200, empty, none⟩
  | .deprovision, .instanceDoesNotExist i =>
    some ⟨410, empty, line op ("instance " ++ i ++ " does not exist")⟩
  | .bind, .bound credentials => some ⟨201, credentials, none⟩
  | .bind, .instanceDoesNotExist i =>
    some ⟨404, described noInstance, line op ("instance " ++ i ++ " does not exist")⟩
  | .bind, .bindingAlreadyExists _ => some ⟨409, described bindingExists, line op bindingExists⟩
  | .unbind, .unbound => some ⟨200, empty, none⟩
  | .unbind, .instanceDoesNotExist i =>
    some ⟨404, empty, line op ("instance " ++ i ++ " does not exist")⟩
  | .unbind, .bindingDoesNotExist b =>
    some ⟨410, empty, line op ("binding " ++ b ++ " does not exist")⟩
  | _, .unexpected m => some ⟨500, described m, line op m⟩
  | _, _ => none

/-- The failure about something that is no outcome of an operation, with the display of it, or the
complaint about showing it. -/
def foreign (op : Operation) (display : Except Complaint Text) : Failure :=
  match display with
  | .ok shown => .ofKind ("Not a " ++ op.name ++ " outcome: " ++ shown)
  | .error c => .ofComplaint c

/-- Every outcome of an operation has an answer, and nothing else has. -/
theorem isSome_of_iff (op : Operation) (o : Outcome) : (of op o).isSome ↔ Outcome.Of op o := by
  cases op <;> cases o <;> simp [of, Outcome.Of]

end WireAnswer
end OpenBroker
