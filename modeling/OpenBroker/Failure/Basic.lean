import OpenBroker.Failure.Class
import OpenBroker.Failure.Condition
import OpenBroker.Text.Utf8
import OpenBroker.Value.Basic

/-!
# Failures

A failure is an error as it was raised: its class with the arguments it was given,
or an HTTP condition.  An error of a class that a broker defines may be both, and it has its own
way to say what it is, which may go wrong.

A sentinel's error without a message, or with an empty one, has the message of
its class.  Errors of the operating system that carry a number are refined by that
number, which shows in the name of their class.
-/
namespace OpenBroker

/-- **Failure.** -/
inductive Failure
  | raised (cls : ErrorClass) (args : List Value)
  | http (condition : HttpCondition)
  /-- An error of a broker's own class: what it says when it is asked what it is, or the failure
  that it meets on the way, and the HTTP condition that it is besides, if it is one. -/
  | own (cls : ErrorClass) (said : Except Failure Text) (condition? : Option HttpCondition)

namespace Failure

/-- The failure of a sentinel without a message of its own. -/
def ofSentinel (s : Sentinel) : Failure := .raised (.sentinel s) []

/-- The failure of a standard class with a message. -/
def standard (name message : Text) : Failure := .raised (.named name) [.text message]

/-- The failure of an argument that is not of the right kind. -/
def ofKind (message : Text) : Failure := standard "TypeError" message

/-- The failure that is a complaint: an error that can be caught and says what it is. -/
def ofComplaint (c : Complaint) : Failure :=
  .own ⟨⟨[c.className], .standard (.named "Exception")⟩, []⟩ (.ok c.message) none

/-- The failure of bytes that are no UTF-8. -/
def undecodable (bytes : List UInt8) (e : Utf8.DecodeError) : Failure :=
  .raised (.named "UnicodeDecodeError")
    [.text "utf-8", .bytes bytes, .int e.position, .int (e.position + e.width),
      .text e.fault.message]

/-- The failure of a text that a character set cannot write, for a reason, at the first
characters that are not fine. -/
def unwritable (charset reason : Text) (isFine : CodePoint → Bool) (t : Text) : Failure :=
  let fine := t.takeWhile isFine
  let bad := (t.drop fine.length).takeWhile fun c => !isFine c
  .raised (.named "UnicodeEncodeError")
    [.text charset, .text t, .int fine.length, .int (fine.length + bad.length), .text reason]

/-- The HTTP condition that a failure is, if it is one. -/
def condition? : Failure → Option HttpCondition
  | raised _ _ => none
  | http h => some h
  | own _ _ condition? => condition?

/-- The failure belongs to a sentinel. -/
def isA (t : Sentinel) : Failure → Bool
  | raised cls _ | own cls _ _ => cls.isA t
  | http _ => false

/-- The failure can be caught, like every condition. -/
def isOrdinary : Failure → Bool
  | raised cls _ => cls.isOrdinary
  | http _ => true
  | own cls _ condition? => condition?.isSome || cls.isOrdinary

/-! ## Arguments -/

/-- The arguments an error keeps: the errors of a sentinel keep one message. -/
def keptArguments (cls : ErrorClass) (args : List Value) : List Value :=
  match cls.isTakenBySentinel, cls.leadingSentinel? with
  | true, some s =>
    match args with
    | [] => [.text s.defaultMessage]
    | v :: rest => (if v.isFalsy then .text s.defaultMessage else v) :: rest
  | _, _ => args

/-- The refined classes of errors of the operating system, by number. -/
def systemRefinements : List (Nat × Text) :=
  [(1, "PermissionError"), (2, "FileNotFoundError"), (3, "ProcessLookupError"),
    (4, "InterruptedError"), (10, "ChildProcessError"), (11, "BlockingIOError"),
    (13, "PermissionError"), (17, "FileExistsError"), (20, "NotADirectoryError"),
    (21, "IsADirectoryError"), (32, "BrokenPipeError"), (103, "ConnectionAbortedError"),
    (104, "ConnectionResetError"), (108, "BrokenPipeError"), (110, "TimeoutError"),
    (111, "ConnectionRefusedError"), (114, "BlockingIOError"), (115, "BlockingIOError")]

/-- The name of the refined class of an error of the operating system. -/
def refinedName? (cls : ErrorClass) (args : List Value) : Option Text :=
  match args with
  | number :: _ :: more =>
    if cls = .named "OSError" ∧ more.length ≤ 3 then
      number.int?.bind fun n => (systemRefinements.find? fun e => n = e.1).map (·.2)
    else none
  | _ => none

/-- **Name** of a failure's class. -/
def className : Failure → Text
  | raised cls args => (refinedName? cls args).getD cls.name
  | http h => h.name.filter (· != ' ')
  | own cls _ _ => cls.name

/-- Whether an error is exactly one of a resource that is not ready: in the place of a
file it may carry a number. -/
def isBlocking (cls : ErrorClass) (args : List Value) : Bool :=
  cls == .named "BlockingIOError" || refinedName? cls args == some "BlockingIOError"

end Failure
end OpenBroker
