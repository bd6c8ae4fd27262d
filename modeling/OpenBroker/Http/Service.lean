import OpenBroker.Http.Route
import OpenBroker.Outcome
import OpenBroker.Value.Document

/-!
# Serving requests

A request to an endpoint of an instance or a binding makes one call of the broker,
the matching one with the identifiers of the path.  Its outcome is logged, if there
is a line for it, and then answered; a request for the catalog is answered with
what the broker returns.  All other requests are answered without the broker.

Some things can go wrong beyond the outcomes.  An answer may have no document, the catalog may
fail, and so may saying what an action failed with: then the request has crashed, unless the
failure is an HTTP condition, which is answered as such.  A crash is reported with the message of
the failure; if that cannot be said, or if the address that a request is to be sent to is more
than one line, the request itself is reported.  A failure that cannot be caught leaves the
request without a reply.

Serving gives back everything that it did: the reply, the calls, the lines for the
log of outcomes, the crash if there was one, and the state of the broker.
-/
namespace OpenBroker
namespace Http

/-- **Crash.**  A failure that was reported to the log of the application: its class, and its
message if the report has it. -/
structure Crash where
  message? : Option Text
  className : Text
  deriving DecidableEq, Repr

/-- **The line about a crash** of a request: the message, or the request. -/
def Crash.line (r : Request) (c : Crash) : Text :=
  match c.message? with
  | some message => "Unhandled exception: " ++ message
  | none => "Exception on " ++ rooted r.path ++ " [" ++ r.verb ++ "]"

/-- **What serving a request did.** -/
structure Served where
  reply : Except Failure Reply
  calls : List Call
  lines : List Text
  crash? : Option Crash

namespace Served

/-- A reply, and nothing else. -/
def only (r : Reply) : Served := ⟨.ok r, [], [], none⟩

/-- No reply, but a failure that nothing catches. -/
def passed (f : Failure) : Served := ⟨.error f, [], [], none⟩

/-- The reply to an HTTP condition. -/
def condition : HttpCondition → Served
  | .handled .unknownPath _ _ _ => only Reply.notFound
  | .handled .methodNotAllowed _ _ _ => only Reply.methodNotAllowed
  | .handled .other code name description? =>
    only (Reply.described (if code = 0 then 500 else code)
      (HttpCondition.told name description?)).sent
  | .ready _ _ _ reply => only reply.sent

/-- The reply to a request that was reported itself, for a failure of a class. -/
def abandoned (className : Text) : Served :=
  { condition (.ofStatus 500 none) with crash? := some ⟨none, className⟩ }

/-- The reply to a request that crashed.  If saying why fails as well, the request is abandoned. -/
def crashed (f : Failure) : Served :=
  match f.message with
  | .ok message => ⟨.ok Reply.internalError, [], [], some ⟨some message, f.className⟩⟩
  | .error g => if g.isOrdinary then abandoned g.className else passed g

/-- The reply to a failure outside the outcomes. -/
def failed (f : Failure) : Served :=
  if f.isOrdinary then
    match f.condition? with
    | some h => condition h
    | none => crashed f
  else passed f

/-- The reply to a request that is sent to another path. -/
def redirected (r : Request) (path : Text) : Served :=
  if r.query.any isLineBreak then abandoned "ValueError"
  else only (.redirection (shownAddress path r.query) (fullAddress path r.query))

/-- The reply with the document of a value. -/
def value (status : Nat) (v : Value) : Served :=
  match v.jsonText with
  | .ok body => only (Reply.json status body)
  | .error c => failed (.ofComplaint c)

/-- The same with the calls that were made and the lines that were logged before. -/
def after (calls : List Call) (lines : List Text) (s : Served) : Served :=
  { s with calls := calls ++ s.calls, lines := lines ++ s.lines }

end Served

/-- **Answer** what a broker answered to an action. -/
def settle (a : Action) (answer : Except Failure Value) : Served :=
  match Outcome.capture a answer with
  | .error f => .failed f
  | .ok o =>
    match WireAnswer.of a.operation o with
    | some w => (Served.value w.status w.body).after [] w.logLine.toList
    | none => .failed (WireAnswer.foreign a.operation o.display)

/-- **Answer** what a broker answered to a call. -/
def answered (c : Call) (answer : Except Failure Value) : Served :=
  match c with
  | .action a => (settle a answer).after [c] []
  | .catalog =>
    Served.after [c] [] <|
      match answer with
      | .ok v => .value 200 v
      | .error f => .failed f

/-- What an endpoint does when a request reaches it with one of its methods: it calls
the broker, or it has a reply of its own. -/
def Endpoint.task (method : Text) (e : Endpoint) : Call ⊕ Reply :=
  if method = "OPTIONS" then .inr (.methods e.methods)
  else
    match e with
    | .catalog => .inl .catalog
    | .health => .inr (.json 200 (Reply.line (.object [("status", .string "ok")])))
    | .ready => .inr (.json 200 (Reply.line (.object [("status", .string "ready")])))
    | .asset => .inr .notFound
    | .instance i => .inl (.action (if method = "PUT" then .provision i else .deprovision i))
    | .binding i b => .inl (.action (if method = "PUT" then .bind i b else .unbind i b))

/-- What a request asks for: a call of the broker, or what is served without one. -/
def Request.task (r : Request) : Call ⊕ Served :=
  match r.route with
  | .endpoint e => (e.task r.verb).map id Served.only
  | .redirection path => .inr (.redirected r path)
  | .methodNotAllowed => .inr (.only .methodNotAllowed)
  | .notFound => .inr (.only .notFound)

/-- What was served, without the body if only the head of the reply was asked for. -/
def Served.asAsked (r : Request) (s : Served) : Served :=
  if r.isForHead then { s with reply := s.reply.map Reply.bodiless } else s

variable {σ : Type}

/-- **Serve** a request with a broker in a state. -/
def serve (broker : Broker σ) (r : Request) (s : σ) : Served × σ :=
  match r.task with
  | .inl call =>
    let (answer, s') := broker.answer call s
    ((answered call answer).asAsked r, s')
  | .inr served => (served.asAsked r, s)

/-- **Run** of requests: what serving each of them did, and the last state. -/
def run (broker : Broker σ) : List Request → σ → List Served × σ
  | [], s => ([], s)
  | r :: rest, s =>
    let (served, s') := serve broker r s
    let (more, last) := run broker rest s'
    (served :: more, last)

end Http
end OpenBroker
