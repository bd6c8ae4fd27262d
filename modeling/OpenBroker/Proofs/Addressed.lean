import OpenBroker.Client.Network
import OpenBroker.Client.Run
import OpenBroker.Proofs.Address
import OpenBroker.Proofs.Isolation
import OpenBroker.Proofs.Text

/-! # What the client addresses is what the application acts on

The client puts the path of a call together from the identifiers as they are, and the application
takes paths apart by rules of its own.  That the two agree is not a matter of paths alone: on the
way the path is made a part of an address, the address is prepared, and its path is encoded, sent
and decoded.  All of this leaves a path as it was (`Site.exists_prepare`), if its segments are
identifiers that no address gives a meaning of their own (`IsPlainId`), and the segments around the
identifiers are such themselves (`isPlainId_of_mem_segments`).  Behind the zone of a host it also
takes that nothing in them has to be encoded (`Site.Carries`).

So a command about such identifiers is one request, and the broker is asked for just the action of
the command.  What the broker answers leads to no second one, unless the broker fails with an answer
of its own making, which may send the client elsewhere.
-/
namespace OpenBroker

/-! ## Identifiers and paths -/

/-- **Plain identifier**: it is not empty and no dot segment, and none of its characters means
anything in an address. -/
structure IsPlainId (id : Text) : Prop where
  nonempty : id ≠ []
  noDots : id ≠ "." ∧ id ≠ ".."
  characters : ∀ c ∈ id, c.isScalar = true ∧ c ≠ '/' ∧ c ≠ '?' ∧ c ≠ '#' ∧ c ≠ '%'

theorem isPlainId_iff {id : Text} : IsPlainId id ↔ (id ≠ [] ∧ id ≠ "." ∧ id ≠ "..") ∧
    id.all (fun c => c.isScalar && c != '/' && c != '?' && c != '#' && c != '%') = true := by
  simp only [List.all_eq_true, Bool.and_eq_true, bne_iff_ne, ne_eq, and_assoc]
  constructor
  · rintro ⟨ne, dots, characters⟩
    exact ⟨ne, dots.1, dots.2, characters⟩
  · rintro ⟨ne, dot, dots, characters⟩
    exact ⟨ne, ⟨dot, dots⟩, characters⟩

instance : DecidablePred IsPlainId := fun _ => decidable_of_iff _ isPlainId_iff.symm

namespace Action

variable {a : Action}

/-- The segments of the path of an action. -/
def segments : Action → List Text
  | provision i | deprovision i => ["v2", "service_instances", i]
  | bind i b | unbind i b => ["v2", "service_instances", i, "service_bindings", b]

theorem path_eq (a : Action) :
    a.path = ('/' : CodePoint) :: Text.join [('/' : CodePoint)] a.segments := by
  cases a with
  | provision i | deprovision i => rfl
  | bind i b | unbind i b =>
    simp [path, segments, Text.join]
    rfl

/-- The segments around the identifiers are always the same. -/
theorem forall_mem_segments {p : Text → Prop}
    (fixed : ∀ t ∈ [("v2" : Text), "service_instances", "service_bindings"], p t)
    (h : ∀ id ∈ a.ids, p id) : ∀ segment ∈ a.segments, p segment := by
  have mem : ∀ segment ∈ a.segments,
      segment ∈ [("v2" : Text), "service_instances", "service_bindings"] ∨ segment ∈ a.ids := by
    cases a <;> simp [segments, ids]
  intro segment hs
  rcases mem segment hs with hs | hs
  · exact fixed segment hs
  · exact h segment hs

theorem forall_mem_path {p : CodePoint → Prop} (slash : p '/')
    (h : ∀ segment ∈ a.segments, ∀ c ∈ segment, p c) : ∀ c ∈ a.path, p c := by
  intro c hc
  rw [path_eq] at hc
  rcases List.mem_cons.mp hc with rfl | hc
  · exact slash
  rcases Text.mem_join hc with hc | ⟨segment, hs, hc⟩
  · rw [List.mem_singleton.mp hc]
    exact slash
  · exact h segment hs c hc

theorem isPlainId_of_mem_segments (plain : ∀ id ∈ a.ids, IsPlainId id) :
    ∀ segment ∈ a.segments, IsPlainId segment :=
  forall_mem_segments (by decide) plain

/-- The path of an action about plain identifiers is kept, and consists of scalar values. -/
theorem isPath_path (plain : ∀ id ∈ a.ids, IsPlainId id) :
    Client.Url.IsPath a.path ∧ ∀ c ∈ a.path, c.isScalar = true := by
  have segments := isPlainId_of_mem_segments plain
  have characters : ∀ c ∈ a.path, (c ≠ '?' ∧ c ≠ '#' ∧ c ≠ '%') ∧ c.isScalar = true :=
    forall_mem_path (by decide) fun segment hs c hc =>
      have := (segments segment hs).characters c hc
      ⟨this.2.2, this.1⟩
  refine ⟨⟨⟨_, path_eq a⟩, fun c hc => (characters c hc).1, ?_⟩, fun c hc => (characters c hc).2⟩
  have ne : a.segments ≠ [] := by cases a <;> exact List.cons_ne_nil _ _
  have split : Text.split '/' a.path = [] :: a.segments := by
    rw [path_eq, Text.split_cons_self, Text.split_join ne]
    intro segment hs slash
    exact ((segments segment hs).characters _ slash).2.1 rfl
  rw [split]
  intro segment hs
  rcases List.mem_cons.mp hs with rfl | hs
  · decide
  · exact (segments segment hs).noDots

/-- A site that carries the identifiers of an action carries its path. -/
theorem carries_path {site : Client.Url.Site} (carried : ∀ id ∈ a.ids, site.Carries id) :
    site.Carries a.path := by
  intro bracket percent
  have fixed : ∀ t ∈ [("v2" : Text), "service_instances", "service_bindings"],
      ∀ c ∈ t, Client.Url.isPathCharacter c = true := by
    have all : [("v2" : Text), "service_instances", "service_bindings"].all
        (fun t => t.all Client.Url.isPathCharacter) = true := by decide
    intro t ht
    exact List.all_eq_true.mp (List.all_eq_true.mp all t ht)
  exact forall_mem_path (by decide)
    (forall_mem_segments fixed fun id hid => carried id hid bracket percent)

end Action

/-! ## Replies that send nobody elsewhere -/

namespace Http

/-- **Reply in place**: it refers to no other address, and it is a document or has no type. -/
structure Reply.InPlace (r : Reply) : Prop where
  noLocation : r.location? = none
  isDocument : r.contentType? = some Reply.jsonType ∨ r.contentType? = none

theorem Reply.inPlace_json (status : Nat) (body : Text) : (Reply.json status body).InPlace :=
  ⟨rfl, .inl rfl⟩

theorem Reply.InPlace.sent {r : Reply} (h : r.InPlace) : r.sent.InPlace := by
  rw [Reply.sent]
  split
  · refine ⟨h.noLocation, ?_⟩
    by_cases unchanged : r.status = 304
    · exact .inr (if_pos unchanged)
    · rw [if_neg unchanged]
      exact h.isDocument
  · exact h

/-- All replies that are served, if any is, are in place. -/
def Served.InPlace (s : Served) : Prop := ∀ r, s.reply = .ok r → r.InPlace

namespace Served

theorem inPlace_only {r : Reply} (h : r.InPlace) : (only r).InPlace := by
  intro r' served
  cases served
  exact h

theorem inPlace_of_reply {s : Served} {r : Reply} (replied : s.reply = .ok r) (h : r.InPlace) :
    s.InPlace := by
  intro r' served
  cases replied.symm.trans served
  exact h

theorem inPlace_passed (f : Failure) : (passed f).InPlace := nofun

theorem inPlace_value (status : Nat) (v : Value) : (value status v).InPlace := by
  cases document : v.document with
  | ok j =>
    rw [value_of_ok status document]
    exact inPlace_only (Reply.inPlace_json _ _)
  | error c =>
    rw [value_of_error status document]
    exact inPlace_of_reply rfl (Reply.inPlace_json _ _)

/-- A condition for the handlers is answered in place. -/
theorem inPlace_condition (cls : ConditionClass) (code : Nat) (name : Text)
    (description? : Option Text) : (condition (.handled cls code name description?)).InPlace := by
  cases cls with
  | unknownPath | methodNotAllowed => exact inPlace_only (Reply.inPlace_json _ _)
  | other => exact inPlace_only (Reply.inPlace_json _ _).sent

/-- A failure that is no reply of its own is answered in place. -/
theorem inPlace_failed {f : Failure} (noReply : ¬ f.IsReply) : (failed f).InPlace := by
  have ways := failed_cases f
  generalize failed f = served at ways ⊢
  cases ways with
  | wild => exact inPlace_passed f
  | lost _ _ g => exact inPlace_passed g
  | condition _ h is =>
    cases h with
    | handled cls code name description? => exact inPlace_condition cls code name description?
    | ready => exact absurd ⟨_, _, _, _, is⟩ noReply
  | said => exact inPlace_of_reply rfl (Reply.inPlace_json _ _)
  | unsaid _ _ g =>
    obtain ⟨description, replied⟩ := exists_reply_abandoned g.className
    exact inPlace_of_reply replied (Reply.inPlace_json _ _)

theorem InPlace.after {s : Served} (h : s.InPlace) (calls : List Call) (lines : List Text) :
    (s.after calls lines).InPlace := h

end Served

/-- **What a broker answered to an action is answered in place**, unless its failure cannot be
told otherwise than by a reply. -/
theorem inPlace_answered {a : Action} {answer : Except Failure Value}
    (noReply : ∀ g, Outcome.capture a answer = .error g → ¬ g.IsReply) :
    (answered (.action a) answer).InPlace := by
  have settled : (settle a answer).InPlace := by
    rw [settle]
    cases captured : Outcome.capture a answer with
    | error g => exact Served.inPlace_failed (noReply g captured)
    | ok o =>
      dsimp only
      split
      · exact (Served.inPlace_value _ _).after _ _
      · exact Served.inPlace_failed (Failure.not_isReply_foreign _ _)
  exact settled.after _ _

end Http

namespace Client

open Http

/-- A reply in place is not followed. -/
theorem next?_ofReply {r : Reply} (h : r.InPlace) (fragment : Text) (m : Message) :
    next? fragment m (.ofReply r) = .ok none := by
  have charset : ∃ name?, (ServerReply.ofReply r).charset? = .ok name? := by
    have known : ∃ name?, (ContentType.ofText Reply.jsonType).charset? = .ok name? :=
      ⟨some "utf-8", rfl⟩
    have unknown : ∃ name?, (ContentType.ofText []).charset? = .ok name? := ⟨none, rfl⟩
    rw [ServerReply.charset?, ServerReply.ofReply]
    rcases h.isDocument with type | type
    · rw [type]
      exact known
    · rw [type]
      exact unknown
  have noReference : (ServerReply.ofReply r).reference? = .ok none := by
    rw [ServerReply.reference?, ServerReply.ofReply, h.noLocation]
    cases followedStatuses.contains r.status <;> rfl
  obtain ⟨name?, charset⟩ := charset
  rw [next?, charset, noReference]
  rfl

/-! ## One request -/

variable {σ : Type} {broker : Broker σ} {s : σ}

theorem direct_apply (broker : Broker σ) (m : Message) (s : σ) :
    direct broker m s = (received (serve broker m.request s).1, (serve broker m.request s).2) := by
  simp only [direct, bind, StateT.bind, get, getThe, MonadStateOf.get, StateT.get]
  rfl

/-- A message that is answered in place is the only one that is sent. -/
theorem send_direct {m : Message} {address : Text} (checked : Url.check m.url = .ok address)
    (stays : (serve broker m.request s).1.InPlace) (follows : Nat) (fragment : Text) :
    send (direct broker) follows fragment m s =
      (([m], received (serve broker m.request s).1), (serve broker m.request s).2) := by
  have once : ∀ goOn, sendOnce (direct broker) goOn fragment m s =
      (([m], received (serve broker m.request s).1), (serve broker m.request s).2) := by
    intro goOn
    rw [sendOnce, checked]
    simp only [bind, StateT.bind, direct_apply, received]
    cases served : (serve broker m.request s).1.reply with
    | error f => rfl
    | ok reply =>
      simp only [Except.map, mapError_ok, next?_ofReply (stays reply served)]
      rfl
  -- how often a reply could be followed does not matter, for none is
  cases follows with
  | zero => exact once _
  | succ follows => exact once _

/-- Whatever it is answered with, a message to an address that can be used is sent, and it is the
first. -/
theorem exists_messages_send (broker : Broker σ) (s : σ) {m : Message} {address : Text}
    (checked : Url.check m.url = .ok address) (follows : Nat) (fragment : Text) :
    ∃ more, (send (direct broker) follows fragment m s).1.1 = m :: more := by
  have first : ∀ goOn, ∃ more, (sendOnce (direct broker) goOn fragment m s).1.1 = m :: more := by
    intro goOn
    rw [sendOnce, checked]
    simp only [bind, StateT.bind, direct_apply]
    cases received (serve broker m.request s).1 with
    | error trouble => exact ⟨[], rfl⟩
    | ok reply =>
      dsimp only
      cases next? fragment m reply with
      | error f => exact ⟨[], rfl⟩
      | ok next =>
        cases next with
        | none => exact ⟨[], rfl⟩
        | some next => exact ⟨_, rfl⟩
  cases follows with
  | zero => exact first _
  | succ follows => exact first _

/-! ## Calls -/

theorem dropEndWhile_replicate {t front : Text} {last : CodePoint} (ends : t = front ++ [last])
    (ne : last ≠ '/') (k : Nat) : Text.dropEndWhile (· = '/') (t ++ Text.replicate k '/') = t := by
  rw [Text.dropEndWhile_append_replicate (by decide), ends]
  exact List.rdropWhile_concat_neg _ front last (by simpa using ne)

/-- The slashes at the end of the address of a broker do not count. -/
theorem addressOf_site (site : Url.Site) (k : Nat) (path : Text) :
    addressOf (site.text ++ Text.replicate k '/') path = site.text ++ path := by
  obtain ⟨front, last, ends⟩ := (List.eq_nil_or_concat site.authority).resolve_left
    site.authority_ne_nil
  rw [List.concat_eq_append] at ends
  have mem : last ∈ site.authority := by
    rw [ends]
    exact List.mem_append_right _ (List.mem_singleton_self last)
  have whole : site.text = site.scheme ++ "://" ++ front ++ [last] := by
    rw [Url.Site.text, ends, ← List.append_assoc]
  rw [addressOf, dropEndWhile_replicate whole (Url.isBare_iff.mp (site.forall_bare last mem)).1.1]

theorem requestOf_action (a : Action) : requestOf (.action a) = (a.verb, a.path) := by
  cases a <;> rfl

/-- A message to an address is received as a request for the path in it. -/
theorem request_eq {scheme authority path method : Text} {timeout : Binary64}
    (plain : Url.IsPath path) (scalar : ∀ c ∈ path, c.isScalar = true)
    (read : Reference.ofText [] (scheme ++ "://" ++ authority ++ Url.encodedPath path) =
      .ok ⟨scheme, authority, Url.encodedPath path, [], []⟩) :
    Message.request ⟨method, scheme ++ "://" ++ authority ++ Url.encodedPath path, true, timeout⟩ =
      ⟨method, path, []⟩ := by
  obtain ⟨rest, begins⟩ := plain.begins
  have target : Reference.target ⟨scheme, authority, Url.encodedPath path, [], []⟩ =
      Url.encodedPath path := by
    rw [Reference.target, begins]
    exact List.append_nil _
  have behind := (Url.isBehind_of_escaped plain.escaped plain.begins).1
  have noMark : ('?' : CodePoint) ∉ Url.encodedPath path := fun mark => (behind.plain _ mark).1 rfl
  have decoded : Percent.decode (Url.encodedPath path) = path :=
    Percent.decode_encode scalar fun percent => (plain.plain _ percent).2.2 rfl
  rw [Message.request, Message.target, read]
  simp only [target, Request.ofTarget, Text.cut_of_notMem noMark, decoded, Option.getD_none]

/-- A request with the method and the path of an action is delivered to it. -/
theorem delivers_of_plain {a : Action} (plain : ∀ id ∈ a.ids, IsPlainId id) :
    Request.Delivers ⟨a.verb, a.path, []⟩ a := by
  have rooted : rooted a.path = a.path := by cases a <;> rfl
  have verb : Text.upper a.verb = a.verb := by
    rcases a.verb_eq with put | delete
    · rw [put]
      decide
    · rw [delete]
      decide
  refine Request.delivers_iff.mpr ⟨rooted, verb, fun id h => ⟨(plain id h).nonempty, ?_⟩⟩
  intro slash
  exact ((plain id h).characters _ slash).2.1 rfl

/-- **The message of a call** about plain identifiers: it has an address that can be used, and it
is received as the request for the action. -/
theorem exists_message {site : Url.Site} (k : Nat) (timeout : Binary64) {a : Action}
    (plain : ∀ id ∈ a.ids, IsPlainId id) (carried : ∀ id ∈ a.ids, site.Carries id) :
    ∃ m : Message, Url.check m.url = .ok m.url ∧ m.request = ⟨a.verb, a.path, []⟩ ∧
      ∀ {μ : Type → Type} [Monad μ] (network : Network μ),
        call network (site.text ++ Text.replicate k '/') timeout (.action a) =
          send network followLimit (fragmentOf m.url) m := by
  obtain ⟨isPath, scalar⟩ := Action.isPath_path plain
  obtain ⟨authority, prepared⟩ := site.exists_prepare
  obtain ⟨prepared, checked, read⟩ := prepared a.path isPath (Action.carries_path carried)
  refine ⟨⟨a.verb, site.scheme ++ "://" ++ authority ++ Url.encodedPath a.path, true, timeout⟩,
    checked, request_eq isPath scalar read, fun network => ?_⟩
  rw [call, requestOf_action]
  simp only [addressOf_site, prepared]

/-- **A call about plain identifiers is one message**, and the broker is asked for its action.  Only
a failure that is a reply may make more of it. -/
theorem exists_call_direct {site : Url.Site} (k : Nat) (timeout : Binary64) {a : Action}
    (plain : ∀ id ∈ a.ids, IsPlainId id) (carried : ∀ id ∈ a.ids, site.Carries id)
    (broker : Broker σ) (s : σ) :
    ∃ (m : Message) (more : List Message), m.request = ⟨a.verb, a.path, []⟩ ∧
      (call (direct broker) (site.text ++ Text.replicate k '/') timeout (.action a) s).1.1 =
        m :: more ∧
      ((∀ g, Outcome.capture a (broker.answer (.action a) s).1 = .error g → ¬ g.IsReply) →
        call (direct broker) (site.text ++ Text.replicate k '/') timeout (.action a) s =
          (([m], received (answered (.action a) (broker.answer (.action a) s).1)),
            (broker.answer (.action a) s).2)) := by
  obtain ⟨m, checked, request, sent⟩ := exists_message k timeout plain carried
  have served := serve_action_of_delivers broker (delivers_of_plain plain) s
  rw [← request] at served
  rw [sent]
  obtain ⟨more, messages⟩ :=
    exists_messages_send broker s checked followLimit (fragmentOf m.url)
  refine ⟨m, more, request, messages, fun noReply => ?_⟩
  have stays : (serve broker m.request s).1.InPlace := by
    rw [served]
    exact inPlace_answered noReply
  rw [send_direct checked stays, served]

/-- A run sends what the exchange for its order sends. -/
theorem messages_ofExchange (o : Order) (e : Exchange) :
    (Result.ofExchange o e).messages = e.1 := by
  obtain ⟨messages, reply⟩ := e
  cases reply with
  | ok reply =>
    simp only [Result.ofExchange]
    cases reply.printed <;> rfl
  | error trouble => cases trouble <;> rfl

/-- A command line that gives an order is run by carrying it out. -/
theorem run_of_readOrder {env : Environment} {arguments : List Text} {o : Order}
    (read : readOrder env arguments = .ok (some o)) (network : Network (StateM σ)) (s : σ) :
    run network env arguments s =
      (Result.ofExchange o (call network o.broker o.timeout o.call s).1,
        (call network o.broker o.timeout o.call s).2) := by
  rw [run, read]
  rfl

/-- The memory broker does not fail with a reply. -/
theorem not_isReply_of_memory {mem : Memory} {passwords : Nat → Text} {s : Memory.State}
    {a : Action} {g : Failure}
    (failed : Outcome.capture a ((mem.broker passwords).answer (.action a) s).1 = .error g) :
    ¬ g.IsReply := by
  obtain ⟨c, rfl⟩ := Outcome.exists_complaint_of_capture failed
  exact Failure.not_isReply_ofComplaint c

/-- **The client and the application agree on what is addressed.**  A command about plain
identifiers that the site carries, at its address with any number of slashes behind it, sends a
request that is delivered to the action of the command, whatever the broker and its state: the
broker is asked for this action, with these identifiers, and for nothing else.  It is the only
request; there can be more just if the broker fails with a reply of its own making, which may send
the client elsewhere. -/
theorem run_direct_delivers {σ : Type} (broker : Broker σ) (s : σ) (site : Url.Site) (k : Nat)
    (timeout : Binary64) (a : Action) (plain : ∀ id ∈ a.ids, IsPlainId id)
    (carried : ∀ id ∈ a.ids, site.Carries id) (env : Environment)
    (arguments : List Text) (read : readOrder env arguments =
      .ok (some ⟨site.text ++ Text.replicate k '/', timeout, .action a⟩)) :
    ∃ (m : Message) (more : List Message),
      (run (direct broker) env arguments s).1.messages = m :: more ∧
      m.request.Delivers a ∧ (serve broker m.request s).1.calls = [.action a] ∧
        ((∀ g, Outcome.capture a (broker.answer (.action a) s).1 = .error g → ¬ g.IsReply) →
          more = [] ∧
            (run (direct broker) env arguments s).2 = (broker.answer (.action a) s).2) := by
  obtain ⟨m, more, request, messages, called⟩ :=
    exists_call_direct k timeout plain carried broker s
  have delivered : m.request.Delivers a := by
    rw [request]
    exact delivers_of_plain plain
  rw [run_of_readOrder read]
  dsimp only
  rw [messages_ofExchange]
  refine ⟨m, more, messages, delivered, ?_, fun noReply => ?_⟩
  · rw [serve_action_of_delivers broker delivered, answered_calls]
  · rw [called noReply] at messages ⊢
    exact ⟨(List.cons.inj messages).2.symm, rfl⟩

/-- A binding with the name of a collection, a blank, a backslash and a letter outside ASCII in
its identifier, on an instance with the name of the version.  The host is given by its number, with
two slashes too many behind it. -/
theorem run_direct_delivers_bind :
    let broker := Memory.broker ⟨.null, 0, []⟩ fun _ => []
    let s := (broker.answer (.action (.provision "v2")) Memory.fresh).2
    let bind : Action := .bind "v2" "service_bindings a\\é"
    let arguments : List Text := ["--broker-url", "https://[::1]:8080//", "bind", "--instance-id",
      "v2", "--binding-id", "service_bindings a\\é"]
    (∀ id ∈ bind.ids, IsPlainId id) ∧
      readOrder [] arguments = .ok (some ⟨"https://[::1]:8080//", defaultTimeout, .action bind⟩) ∧
        ∃ m : Message, (run (direct broker) [] arguments s).1.messages = [m] ∧
          m.request.Delivers bind ∧ (serve broker m.request s).1.calls = [.action bind] ∧
            (run (direct broker) [] arguments s).2 = (broker.answer (.action bind) s).2 := by
  intro broker s bind arguments
  have plain : ∀ id ∈ bind.ids, IsPlainId id := by decide
  have carried : ∀ id ∈ bind.ids, Url.Site.loopback.Carries id := fun _ _ _ zone =>
    absurd zone (by decide)
  have read : readOrder [] arguments =
      .ok (some ⟨Url.Site.loopback.text ++ Text.replicate 2 '/', defaultTimeout,
        .action bind⟩) := by rfl
  obtain ⟨m, more, messages, delivered, calls, alone⟩ :=
    run_direct_delivers broker s .loopback 2 _ bind plain carried [] _ read
  obtain ⟨rfl, state⟩ := alone fun g => not_isReply_of_memory
  exact ⟨plain, read, m, messages, delivered, calls, state⟩

end Client
end OpenBroker
