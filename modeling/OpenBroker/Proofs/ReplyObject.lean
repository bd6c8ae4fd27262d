import OpenBroker.Proofs.AnyBroker
import OpenBroker.Proofs.Except
import OpenBroker.Proofs.JsonText

/-! # Replies are JSON objects

A client that reads the body of every reply needs a JSON object in each of them.  The application
makes its replies in many places: for what a broker returned, for what it raised, for a value that
has no document, for a path or a method that is not known, and for the checks of its health.  All
of them write a document with members, and whatever is written is read again (`isObject_json`).

Some replies are made outside of these places.  A path with doubled slashes is answered with a
page that sends the client elsewhere, without any of them being asked.  A failure may reach the
handlers of the application (`Reaches`): a catalog's, or that of saying what an action failed with.
If it is an HTTP condition then it may be a reply already, and that is answered as it is; or its
status may have no body, so that its description is written and then thrown away.  And what nothing
catches leaves a request without a reply.  In all other cases the reply is an object
(`serve_isObject_iff`).
-/
namespace OpenBroker

/-! ## What has a document can be read -/

namespace Value

/-- An integer that is not too long to be written is not too long to be read. -/
theorem short_of_writable {n m : Int} (h : writable n = .ok m) :
    m.natAbs < Nat.pow 10 Literal.digitLimit := by
  by_cases long : Literal.IsTooLong n
  · rw [writable, if_pos long] at h
    cases h
  · rw [writable, if_neg long] at h
    rw [← Except.ok.inj h]
    exact Decimal.lt_pow_of_length_ofNat_le (Nat.not_lt.mp long)

mutual

/-- **The document of a value is legible.** -/
theorem legible_of_document : ∀ {v : Value} {j : Json}, v.document = .ok j → j.Legible
  | .null, j, h => by
    cases h
    exact .null
  | .bool b, j, h => by
    cases h
    exact .bool b
  | .int n, j, h => by
    obtain ⟨m, short, rfl⟩ := exists_of_map_eq_ok h
    exact .int m (short_of_writable short)
  | .real x, j, h => by
    cases h
    exact .real x
  | .text s, j, h => by
    cases h
    exact .string s
  | .list items, j, h | .tuple items, j, h => by
    rw [document] at h
    obtain ⟨js, written, h⟩ := exists_of_bind_eq_ok h
    cases h
    exact .array js (legible_of_documents written)
  | .mapping entries, j, h => by
    rw [document] at h
    obtain ⟨es, written, h⟩ := exists_of_bind_eq_ok h
    cases h
    exact .object es (legible_of_memberDocuments written)
  | .foreign _ _ _ _ (.ok v), j, h => by
    rw [document] at h
    exact legible_of_document h
  | .set _, j, h | .bytes _, j, h | .foreign _ _ _ _ (.error _), j, h => by cases h

theorem legible_of_documents :
    ∀ {vs : List Value} {js : List Json}, documents vs = .ok js → ∀ j ∈ js, j.Legible
  | [], js, h => by
    cases h
    exact fun _ h => nomatch h
  | v :: rest, js, h => by
    rw [documents] at h
    obtain ⟨j, first, h⟩ := exists_of_bind_eq_ok h
    obtain ⟨more, others, h⟩ := exists_of_bind_eq_ok h
    cases h
    exact List.forall_mem_cons.mpr ⟨legible_of_document first, legible_of_documents others⟩

theorem legible_of_memberDocuments : ∀ {entries : List (Value × Value)} {es : List (Text × Json)},
    memberDocuments entries = .ok es → ∀ e ∈ es, e.2.Legible
  | [], es, h => by
    cases h
    exact fun _ h => nomatch h
  | (k, v) :: rest, es, h => by
    rw [memberDocuments] at h
    obtain ⟨key, -, h⟩ := exists_of_bind_eq_ok h
    obtain ⟨j, first, h⟩ := exists_of_bind_eq_ok h
    obtain ⟨more, others, h⟩ := exists_of_bind_eq_ok h
    cases h
    exact List.forall_mem_cons.mpr ⟨legible_of_document first, legible_of_memberDocuments others⟩

end

end Value
namespace Http

/-! ## Replies with an object -/

/-- **A reply is an object**: it has the type of a document, and its body is read as an object. -/
structure Reply.IsObject (r : Reply) : Prop where
  type : r.contentType? = some Reply.jsonType
  body : ∃ members, Json.read r.body = .ok (.object members)

/-- All that was served is a reply that is an object. -/
def Served.IsObject (s : Served) : Prop := ∃ r, s.reply = .ok r ∧ r.IsObject

variable {members : List (Text × Json)}

/-- **A written object is read as an object**, at the end of a line or of the text. -/
theorem exists_read_write {style : Json.Style} {rest : Text} (proper : style.Proper)
    (legible : (Json.object members).Legible) (closes : Json.Closes rest)
    (blank : Json.skip rest = []) : ∃ members',
      Json.read (Json.write style (.object members) ++ rest) = .ok (.object members') := by
  obtain ⟨j', reads, object⟩ := Json.exists_readsAs proper legible
  obtain ⟨members', rfl⟩ := object _ rfl
  exact ⟨members', Json.read_of_readsAs reads closes blank⟩

theorem isObject_text (status : Nat) (legible : (Json.object members).Legible) :
    (Reply.json status (Json.text (.object members))).IsObject := by
  obtain ⟨members', read⟩ := exists_read_write Json.proper_spaced legible Json.closes_nil rfl
  rw [List.append_nil] at read
  exact ⟨rfl, members', read⟩

theorem isObject_line (status : Nat) (legible : (Json.object members).Legible) :
    (Reply.json status (Reply.line (.object members))).IsObject :=
  ⟨rfl, exists_read_write Json.proper_compact legible
    (Json.closes_cons (.inr (.inr (.inr rfl)))) rfl⟩

/-- A single text is described by an object. -/
theorem legible_single (key t : Text) : (Json.object [(key, .string t)]).Legible :=
  .object _ (List.forall_mem_singleton.mpr (.string t))

theorem isObject_described (status : Nat) (description : Text) :
    (Reply.described status description).IsObject :=
  isObject_line status (legible_single _ _)

namespace Served

theorem isObject_only {r : Reply} (h : r.IsObject) : (only r).IsObject := ⟨r, rfl, h⟩

theorem IsObject.after {s : Served} (h : s.IsObject) (calls : List Call) (lines : List Text) :
    (s.after calls lines).IsObject := h

/-- **A mapping is answered with an object**, also if it has no document. -/
theorem isObject_value (status : Nat) (entries : List (Value × Value)) :
    (value status (.mapping entries)).IsObject := by
  cases document : (Value.mapping entries).document with
  | error c =>
    rw [value_of_error status document]
    exact ⟨_, rfl, isObject_described 500 _⟩
  | ok j =>
    have legible := Value.legible_of_document document
    rw [value_of_ok status document]
    rw [Value.document] at document
    obtain ⟨members, -, object⟩ := exists_of_bind_eq_ok document
    cases object
    exact isObject_only (isObject_text status legible)

end Served

/-! ## Failures that reach the handlers -/

/-- **A failure without a reply**, and the failure that is left in its place: one that cannot be
caught, the failure itself or the one of saying what it is. -/
inductive PassesOn (f : Failure) : Failure → Prop
  | wild (wild : f.isOrdinary = false) : PassesOn f f
  | lost {g : Failure} (ordinary : f.isOrdinary = true) (other : f.condition? = none)
    (unsaid : f.message = .error g) (wild : g.isOrdinary = false) : PassesOn f g

/-- **A silent failure**: an HTTP condition of a status that has no body, or a reply already that is
no object. -/
inductive IsSilent (f : Failure) : Prop
  | bodiless {code : Nat} {name : Text} {description? : Option Text}
    (is : f.condition? = some (.handled .other code name description?))
    (bodiless : Reply.isBodiless code = true)
  | ready {code? : Option Nat} {name : Text} {description? : Option Text} {reply : Reply}
    (is : f.condition? = some (.ready code? name description? reply))
    (noObject : ¬ reply.sent.IsObject)

/-- **What is replied** when some failures pass on, and something may be silent: an object, unless
it is. -/
structure Served.Replies (s : Served) (passes : Failure → Prop) (silent : Prop) : Prop where
  none : ∀ g, s.reply = .error g ↔ passes g
  object : ∀ reply, s.reply = .ok reply → (reply.IsObject ↔ ¬ silent)

namespace Served

variable {s : Served} {passes passes' : Failure → Prop} {silent silent' : Prop} {f : Failure}

theorem replies_of_reply {r : Reply} (replied : s.reply = .ok r) (silence : r.IsObject ↔ ¬ silent)
    (noneLeft : ∀ g, ¬ passes g) : s.Replies passes silent where
  none g := iff_of_false (fun h => nomatch replied.symm.trans h) (noneLeft g)
  object r' h := by
    cases replied.symm.trans h
    exact silence

theorem IsObject.replies (h : s.IsObject) (noneLeft : ∀ g, ¬ passes g) (loud : ¬ silent) :
    s.Replies passes silent := by
  obtain ⟨r, replied, object⟩ := h
  exact replies_of_reply replied (iff_of_true object loud) noneLeft

theorem Replies.congr (h : s.Replies passes silent) (passing : ∀ g, passes g ↔ passes' g)
    (silence : silent ↔ silent') : s.Replies passes' silent' where
  none g := (h.none g).trans (passing g)
  object r replied := (h.object r replied).trans (not_congr silence)

theorem Replies.after (h : s.Replies passes silent) (calls : List Call) (lines : List Text) :
    (s.after calls lines).Replies passes silent := ⟨h.none, h.object⟩

theorem not_passesOn_of_condition {h : HttpCondition} (is : f.condition? = some h) (g : Failure) :
    ¬ PassesOn f g := by
  intro passes
  cases passes with
  | wild wild =>
    rw [Failure.isOrdinary_of_condition is] at wild
    cases wild
  | lost _ other => cases is.symm.trans other

theorem not_isSilent_of_other (other : f.condition? = none) : ¬ IsSilent f := by
  intro silent
  cases silent with
  | bodiless is | ready is => cases other.symm.trans is

theorem isSilent_iff_of_ready {code? : Option Nat} {name : Text} {description? : Option Text}
    {reply : Reply} (is : f.condition? = some (.ready code? name description? reply)) :
    IsSilent f ↔ ¬ reply.sent.IsObject := by
  refine ⟨fun silent => ?_, .ready is⟩
  cases silent with
  | bodiless is' => cases is.symm.trans is'
  | ready is' noObject =>
    cases is.symm.trans is'
    exact noObject

theorem isSilent_iff_of_handled {cls : ConditionClass} {code : Nat} {name : Text}
    {description? : Option Text} (is : f.condition? = some (.handled cls code name description?)) :
    IsSilent f ↔ cls = .other ∧ Reply.isBodiless code = true := by
  constructor
  · intro silent
    cases silent with
    | bodiless is' bodiless =>
      cases is.symm.trans is'
      exact ⟨rfl, bodiless⟩
    | ready is' => cases is.symm.trans is'
  · rintro ⟨rfl, bodiless⟩
    exact .bodiless is bodiless

/-- A failure that cannot be caught is what is left. -/
theorem passesOn_iff_of_wild (wild : f.isOrdinary = false) {g : Failure} :
    PassesOn f g ↔ g = f := by
  constructor
  · intro passes
    cases passes with
    | wild => rfl
    | lost ordinary =>
      rw [ordinary] at wild
      cases wild
  · rintro rfl
    exact .wild wild

/-- Of any other failure that is no condition, only that of saying what it is can be left. -/
theorem passesOn_iff_of_ordinary (ordinary : f.isOrdinary = true) (other : f.condition? = none)
    {g : Failure} : PassesOn f g ↔ f.message = .error g ∧ g.isOrdinary = false := by
  constructor
  · intro passes
    cases passes with
    | wild wild =>
      rw [ordinary] at wild
      cases wild
    | lost _ _ unsaid wild => exact ⟨unsaid, wild⟩
  · rintro ⟨unsaid, wild⟩
    exact .lost ordinary other unsaid wild

theorem body_sent_of_bodiless {r : Reply} (bodiless : Reply.isBodiless r.status = true) :
    ¬ r.sent.IsObject := by
  intro object
  obtain ⟨members, read⟩ := object.body
  have empty : r.sent.body = [] := by rw [Reply.sent, if_pos bodiless]
  rw [empty] at read
  cases read

/-- A description is sent as an object, unless its status has no body. -/
theorem isObject_sent_described_iff {code : Nat} (description : Text) :
    (Reply.described (if code = 0 then 500 else code) description).sent.IsObject ↔
      ¬ Reply.isBodiless code = true := by
  by_cases bodiless : Reply.isBodiless code = true
  · refine iff_of_false (body_sent_of_bodiless ?_) (not_not_intro bodiless)
    have some : code ≠ 0 := by
      rintro rfl
      cases bodiless
    rw [if_neg some]
    exact bodiless
  · refine iff_of_true ?_ bodiless
    rw [Reply.sent, if_neg]
    · exact isObject_described _ _
    · by_cases zero : code = 0
      · rw [if_pos zero]
        exact (by decide : ¬ Reply.isBodiless 500 = true)
      · rw [if_neg zero]
        exact bodiless

/-- A condition is answered with an object, unless it is silent. -/
theorem replies_condition {h : HttpCondition} (is : f.condition? = some h) :
    (condition h).Replies (PassesOn f) (IsSilent f) := by
  have noneLeft := not_passesOn_of_condition is
  cases h with
  | ready code? name description? reply =>
    refine replies_of_reply rfl ?_ noneLeft
    rw [isSilent_iff_of_ready is, Classical.not_not]
  | handled cls code name description? =>
    have silence := isSilent_iff_of_handled is
    cases cls with
    | unknownPath =>
      exact (isObject_only (isObject_described 404 _)).replies noneLeft (by simp [silence])
    | methodNotAllowed =>
      exact (isObject_only (isObject_described 405 _)).replies noneLeft (by simp [silence])
    | other =>
      refine replies_of_reply rfl ?_ noneLeft
      rw [silence, isObject_sent_described_iff, and_iff_right rfl]

/-- **What a failure is replied with**, for each way in which it ends. -/
theorem replies_failed (f : Failure) : (failed f).Replies (PassesOn f) (IsSilent f) := by
  have ways := failed_cases f
  generalize failed f = served at ways ⊢
  cases ways with
  | condition ordinary h is => exact replies_condition is
  | wild wild =>
    refine ⟨fun g => ?_, nofun⟩
    rw [passesOn_iff_of_wild wild]
    exact ⟨fun same => (Except.error.inj same).symm, fun same => same ▸ rfl⟩
  | said ordinary other m said =>
    refine IsObject.replies ⟨_, rfl, isObject_described 500 _⟩ ?_ (not_isSilent_of_other other)
    intro g passes
    cases said.symm.trans ((passesOn_iff_of_ordinary ordinary other).mp passes).1
  | unsaid ordinary other g unsaid caught =>
    obtain ⟨description, replied⟩ := exists_reply_abandoned g.className
    refine IsObject.replies ⟨_, replied, isObject_described 500 _⟩ ?_ (not_isSilent_of_other other)
    intro g' passes
    obtain ⟨unsaid', wild⟩ := (passesOn_iff_of_ordinary ordinary other).mp passes
    cases unsaid.symm.trans unsaid'
    rw [caught] at wild
    cases wild
  | lost ordinary other g unsaid wild =>
    refine ⟨fun g' => ?_, nofun⟩
    rw [passesOn_iff_of_ordinary ordinary other, unsaid]
    constructor
    · intro same
      cases same
      exact ⟨rfl, wild⟩
    · rintro ⟨same, -⟩
      cases same
      rfl

end Served

/-! ## Answers of the declared kinds -/

/-- **Answer of the declared kind** to a call: an error that can be caught, or a value.  A catalog
is a mapping, the address of a dashboard is a text, and credentials are a mapping; the last two may
be missing.  What a removal returns is not looked at. -/
def Declared (c : Call) : Except Failure Value → Prop
  | .error f => f.isOrdinary = true
  | .ok v =>
    match c with
    | .catalog => ∃ entries, v = .mapping entries
    | .action (.provision _) => v = .null ∨ ∃ t, v = .text t
    | .action (.bind _ _) => v = .null ∨ ∃ entries, v = .mapping entries
    | .action (.deprovision _) | .action (.unbind _ _) => True

/-- **Reaches**: the failure that the handlers of the application are asked about when a broker
answered a call with an error.  For the catalog it is this error; for an action it is the failure of
saying what the error is, where the action does not know it. -/
inductive Reaches : Call → Except Failure Value → Failure → Prop
  | catalog {f : Failure} : Reaches .catalog (.error f) f
  | action {a : Action} {f g : Failure} (unsaid : Prescription.ofRaised f a = .error g) :
    Reaches (.action a) (.error f) g

/-- A value of the declared kind that an action returned has an outcome, and the body of the answer
is a mapping: only credentials are answered as they are. -/
theorem exists_mapping_of_declared {a : Action} {v : Value}
    (declared : Declared (.action a) (.ok v)) : ∃ o w entries,
      Outcome.capture a (.ok v) = .ok o ∧ WireAnswer.of a.operation o = some w ∧
        w.body = .mapping entries := by
  cases a with
  | provision i => rcases declared with rfl | ⟨t, rfl⟩ <;> exact ⟨_, _, _, rfl, rfl, rfl⟩
  | deprovision | unbind => exact ⟨_, _, _, rfl, rfl, rfl⟩
  | bind i b => rcases declared with rfl | ⟨entries, rfl⟩ <;> exact ⟨_, _, _, rfl, rfl, rfl⟩

/-- **A value of the declared kind** that an action returned is answered with an object. -/
theorem isObject_settle {a : Action} {v : Value} (declared : Declared (.action a) (.ok v)) :
    (settle a (.ok v)).IsObject := by
  obtain ⟨o, w, entries, captured, mapped, body⟩ := exists_mapping_of_declared declared
  rw [settle, captured]
  dsimp only
  rw [mapped]
  dsimp only
  rw [body]
  exact (Served.isObject_value _ _).after _ _

/-- What is prescribed for a failure is an object. -/
theorem isObject_served {p : Prescription} {a : Action} (failure : p.ForFailure a) :
    (p.served a).IsObject := by
  refine ⟨_, rfl, ?_⟩
  rcases failure.document with nothing | ⟨t, described⟩
  · rw [nothing]
    exact isObject_text _ (.object [] nofun)
  · rw [described]
    exact isObject_text _ (legible_single _ t)

/-- **What an answer of the declared kind is replied with.** -/
theorem replies_answered {c : Call} {answer : Except Failure Value} (declared : Declared c answer) :
    (answered c answer).Replies (fun g => ∃ f, Reaches c answer f ∧ PassesOn f g)
      (∃ f, Reaches c answer f ∧ IsSilent f) := by
  -- what is true of the only failure that is reached is true of some
  have alone {f : Failure} (here : Reaches c answer f)
      (only : ∀ f', Reaches c answer f' → f' = f) (P : Failure → Prop) :
      P f ↔ ∃ f', Reaches c answer f' ∧ P f' :=
    ⟨fun h => ⟨f, here, h⟩, fun ⟨f', there, h⟩ => only f' there ▸ h⟩
  cases answer with
  | ok v =>
    have nowhere : ∀ f, ¬ Reaches c (.ok v) f := nofun
    have object : (answered c (.ok v)).IsObject := by
      cases c with
      | catalog =>
        obtain ⟨entries, rfl⟩ := declared
        exact (Served.isObject_value _ _).after _ _
      | action a => exact (isObject_settle declared).after _ _
    exact object.replies (fun _ ⟨f, here, _⟩ => nowhere f here) fun ⟨f, here, _⟩ => nowhere f here
  | error f =>
    cases c with
    | catalog =>
      have only : ∀ f', Reaches .catalog (.error f) f' → f' = f := by
        intro f' there
        cases there
        rfl
      exact ((Served.replies_failed f).after [.catalog] []).congr
        (fun g => alone .catalog only fun f' => PassesOn f' g) (alone .catalog only IsSilent)
    | action a =>
      rw [answered_of_raised a declared]
      cases prescribed : Prescription.ofRaised f a with
      | ok p =>
        have nowhere : ∀ f', ¬ Reaches (.action a) (.error f) f' := by
          intro f' there
          cases there with
          | action unsaid => cases prescribed.symm.trans unsaid
        exact (isObject_served (Prescription.forFailure_ofRaised prescribed)).replies
          (fun _ ⟨f', here, _⟩ => nowhere f' here) fun ⟨f', here, _⟩ => nowhere f' here
      | error g =>
        have only : ∀ f', Reaches (.action a) (.error f) f' → f' = g := by
          intro f' there
          cases there with
          | action unsaid =>
            cases prescribed.symm.trans unsaid
            rfl
        exact ((Served.replies_failed g).after [.action a] []).congr
          (fun g' => alone (.action prescribed) only fun f' => PassesOn f' g')
          (alone (.action prescribed) only IsSilent)

/-! ## Replies that send elsewhere -/

/-- **A request that is sent elsewhere**: its path without doubled slashes takes its method, and
its path as it is does not.  The address to send it to has to be a single line. -/
structure Request.IsSentElsewhere (r : Request) : Prop where
  missed : takes r.verb (Endpoint.ofPath? (rooted r.path)) = false
  merged : takes r.verb (Endpoint.ofPath? (mergeSlashes (rooted r.path))) = true
  oneLine : r.query.any isLineBreak = false

theorem not_isObject_redirection (shown location : Text) :
    ¬ (Reply.redirection shown location).IsObject := by
  intro object
  exact absurd object.type (by decide : ¬ some Reply.pageType = some Reply.jsonType)

/-! ## Requests -/

variable {σ : Type} {broker : Broker σ} {s : σ} {r : Request}

theorem Request.route_eq_redirection_iff {path : Text} :
    r.route = .redirection path ↔ path = mergeSlashes (rooted r.path) ∧
      takes r.verb (Endpoint.ofPath? (rooted r.path)) = false ∧
      takes r.verb (Endpoint.ofPath? (mergeSlashes (rooted r.path))) = true := by
  have own (e : Endpoint) : takes r.verb (some e) = e.methods.contains r.verb := rfl
  unfold Request.route
  dsimp only
  cases Endpoint.ofPath? (rooted r.path) with
  | some e =>
    dsimp only
    rw [own]
    by_cases taken : e.methods.contains r.verb = true
    · rw [if_pos taken, taken]
      exact iff_of_false nofun fun h => nomatch h.2.1
    rw [if_neg taken, Bool.eq_false_iff.mpr taken]
    by_cases merged : takes r.verb (Endpoint.ofPath? (mergeSlashes (rooted r.path))) = true
    · rw [if_pos merged, Route.redirection.injEq, eq_comm]
      exact ⟨fun same => ⟨same, rfl, merged⟩, And.left⟩
    · rw [if_neg merged]
      exact iff_of_false nofun fun h => merged h.2.2
  | none =>
    cases Endpoint.ofPath? (mergeSlashes (rooted r.path)) with
    | none => exact iff_of_false nofun fun h => nomatch h.2.2
    | some e =>
      dsimp only
      rw [own]
      by_cases taken : e.methods.contains r.verb = true
      · rw [if_pos taken, Route.redirection.injEq, eq_comm]
        exact ⟨fun same => ⟨same, rfl, taken⟩, And.left⟩
      · rw [if_neg taken]
        exact iff_of_false nofun fun h => taken h.2.2

/-- An endpoint that makes a reply of its own makes an object, unless it is asked for options. -/
theorem Endpoint.isObject_of_task {verb : Text} {e : Endpoint} {reply : Reply}
    (noOptions : verb ≠ "OPTIONS") (own : e.task verb = .inr reply) : reply.IsObject := by
  unfold task at own
  rw [if_neg noOptions] at own
  cases e <;> cases own
  case health => exact isObject_line 200 (legible_single _ _)
  case ready => exact isObject_line 200 (legible_single _ _)
  case asset => exact isObject_described 404 _

/-- What is served without the broker is an object, unless the client is sent elsewhere. -/
theorem exists_isObject_iff_of_own {served : Served} (noOptions : r.verb ≠ "OPTIONS")
    (own : r.task = .inr served) :
    ∃ reply, served.reply = .ok reply ∧ (reply.IsObject ↔ ¬ r.IsSentElsewhere) := by
  have object (isObject : served.IsObject) (stays : ¬ r.IsSentElsewhere) :
      ∃ reply, served.reply = .ok reply ∧ (reply.IsObject ↔ ¬ r.IsSentElsewhere) := by
    obtain ⟨reply, sent, isObject⟩ := isObject
    exact ⟨reply, sent, iff_of_true isObject stays⟩
  have routed (elsewhere : r.IsSentElsewhere) : ∃ path, r.route = .redirection path :=
    ⟨_, Request.route_eq_redirection_iff.mpr ⟨rfl, elsewhere.missed, elsewhere.merged⟩⟩
  have stays {route : Route} (routed' : r.route = route)
      (other : ∀ path, route ≠ .redirection path) : ¬ r.IsSentElsewhere := by
    intro elsewhere
    obtain ⟨path, redirected⟩ := routed elsewhere
    exact other path (routed'.symm.trans redirected)
  unfold Request.task at own
  cases route : r.route with
  | endpoint e =>
    rw [route] at own
    dsimp only at own
    cases task : e.task r.verb with
    | inl call =>
      rw [task] at own
      cases own
    | inr reply =>
      rw [task] at own
      cases own
      exact object (Served.isObject_only (Endpoint.isObject_of_task noOptions task))
        (stays route nofun)
  | redirection path =>
    rw [route] at own
    cases own
    by_cases broken : r.query.any isLineBreak = true
    · refine object ?_ fun elsewhere => ?_
      · rw [Served.redirected, if_pos broken]
        obtain ⟨description, replied⟩ := Served.exists_reply_abandoned "ValueError"
        exact ⟨_, replied, isObject_described 500 _⟩
      · rw [elsewhere.oneLine] at broken
        cases broken
    · obtain ⟨-, missed, merged⟩ := Request.route_eq_redirection_iff.mp route
      rw [Served.redirected, if_neg broken]
      exact ⟨_, rfl, iff_of_false (not_isObject_redirection _ _) fun stays =>
        stays ⟨missed, merged, Bool.eq_false_iff.mpr broken⟩⟩
  | methodNotAllowed =>
    rw [route] at own
    cases own
    exact object (Served.isObject_only (isObject_described 405 _)) (stays route nofun)
  | notFound =>
    rw [route] at own
    cases own
    exact object (Served.isObject_only (isObject_described 404 _)) (stays route nofun)

theorem Request.not_isSentElsewhere_of_task {call : Call} (asks : r.task = .inl call) :
    ¬ r.IsSentElsewhere := by
  intro elsewhere
  have route := Request.route_eq_redirection_iff.mpr ⟨rfl, elsewhere.missed, elsewhere.merged⟩
  rw [Request.task, route] at asks
  cases asks

/-- **Which replies are objects.**  A request with one of the five methods is served by a broker
whose answers are of the declared kinds.  It is left without a reply just if a failure reaches the
handlers that nothing catches, and what is left is that failure.  Otherwise the reply is an object,
but for a request that is sent elsewhere and for a silent failure that reaches the handlers. -/
theorem serve_isObject_iff {σ : Type} (broker : Broker σ) (s : σ) (r : Request)
    (verb : r.verb ∈ (["GET", "PUT", "POST", "PATCH", "DELETE"] : List Text))
    (declared : ∀ c, Declared c (broker.answer c s).1) :
    (∀ g, (serve broker r s).1.reply = .error g ↔
        ∃ c f, r.task = .inl c ∧ Reaches c (broker.answer c s).1 f ∧ PassesOn f g) ∧
      ∀ reply, (serve broker r s).1.reply = .ok reply →
        (reply.IsObject ↔ ¬ r.IsSentElsewhere ∧
          ¬ ∃ c f, r.task = .inl c ∧ Reaches c (broker.answer c s).1 f ∧ IsSilent f) := by
  have others : ∀ verb ∈ (["GET", "PUT", "POST", "PATCH", "DELETE"] : List Text),
      verb ≠ "HEAD" ∧ verb ≠ "OPTIONS" := by decide
  obtain ⟨noHead, noOptions⟩ := others r.verb verb
  have whole (served : Served) : served.asAsked r = served := by
    rw [Served.asAsked, Request.isForHead_of_verb_ne noHead]
    rfl
  rw [serve]
  cases task : r.task with
  | inl call =>
    have stays := Request.not_isSentElsewhere_of_task task
    have replies := replies_answered (declared call)
    -- no other call is made, so what reaches the handlers is what this one failed with
    have alone (P : Failure → Prop) :
        (∃ f, Reaches call (broker.answer call s).1 f ∧ P f) ↔
          ∃ c f, (.inl call : Call ⊕ Served) = .inl c ∧
            Reaches c (broker.answer c s).1 f ∧ P f := by
      constructor
      · rintro ⟨f, here, h⟩
        exact ⟨call, f, rfl, here, h⟩
      · rintro ⟨c, f, same, there, h⟩
        cases same
        exact ⟨f, there, h⟩
    dsimp only
    rw [whole]
    refine ⟨fun g => (replies.none g).trans (alone fun f => PassesOn f g), fun reply replied => ?_⟩
    rw [replies.object reply replied, alone]
    exact (and_iff_right stays).symm
  | inr served =>
    obtain ⟨reply, sent, object⟩ := exists_isObject_iff_of_own noOptions task
    have noCall (P : Call → Failure → Prop) :
        ¬ ∃ c f, (.inr served : Call ⊕ Served) = .inl c ∧ P c f := by
      rintro ⟨c, f, same, -⟩
      cases same
    dsimp only
    rw [whole]
    refine ⟨fun g => iff_of_false (fun failed => ?_) (noCall _), fun reply' replied => ?_⟩
    · cases sent.symm.trans failed
    · cases sent.symm.trans replied
      exact object.trans (and_iff_left (noCall _)).symm

/-- A catalog with a number for a key, half of a pair in a text, and a number with a fraction. -/
theorem serve_isObject_iff_catalog :
    let script : Script := ⟨[.ok (.mapping [(.int 1, .text [CodePoint.ofNat 0xD800]),
      (.text "x", .real ⟨0x3FB999999999999A⟩)])], [], [], [], []⟩
    let r : Request := ⟨"GET", "/v2/catalog", []⟩
    r.verb ∈ (["GET", "PUT", "POST", "PATCH", "DELETE"] : List Text) ∧
      (∀ c, Declared c (Script.broker.answer c script).1) ∧
      ∃ reply, (serve Script.broker r script).1.reply = .ok reply ∧
        reply.body = "\x7b\"1\": \"\\ud800\", \"x\": 0.1\x7d" ∧ reply.IsObject := by
  intro script r
  have verb : r.verb ∈ (["GET", "PUT", "POST", "PATCH", "DELETE"] : List Text) := by decide
  have declared : ∀ c, Declared c (Script.broker.answer c script).1
    | .catalog => ⟨_, rfl⟩
    | .action (.provision _) | .action (.bind _ _) => .inl rfl
    | .action (.deprovision _) | .action (.unbind _ _) => trivial
  have body : (serve Script.broker r script).1.reply.toOption.map (·.body) =
      some "\x7b\"1\": \"\\ud800\", \"x\": 0.1\x7d" := by decide +kernel
  obtain ⟨none, object⟩ := serve_isObject_iff Script.broker script r verb declared
  have task : r.task = .inl .catalog := by rfl
  have nowhere (P : Failure → Prop) : ¬ ∃ c f, r.task = .inl c ∧
      Reaches c (Script.broker.answer c script).1 f ∧ P f := by
    rintro ⟨c, f, asks, reached, -⟩
    cases task.symm.trans asks
    cases reached
  cases sent : (serve Script.broker r script).1.reply with
  | error g => exact absurd ((none g).mp sent) (nowhere _)
  | ok reply =>
    rw [sent] at body
    refine ⟨verb, declared, reply, rfl, Option.some.inj body, (object reply sent).mpr ⟨?_, ?_⟩⟩
    · intro elsewhere
      exact absurd elsewhere.missed (by decide)
    · exact nowhere IsSilent

/-- **A page in the place of an object.**  The path of an instance is asked for with a slash too
many, and the reply is a page that sends the client to the path without it. -/
theorem exists_page_of_doubled_slash :
    let script : Script := ⟨[.ok (.mapping [])], [], [], [], []⟩
    let r : Request := ⟨"PUT", "/v2//service_instances/x", []⟩
    (∀ c, Declared c (Script.broker.answer c script).1) ∧
      ∃ reply, (serve Script.broker r script).1.reply = .ok reply ∧ reply.status = 308 ∧
        reply.contentType? = some Reply.pageType ∧ ¬ reply.IsObject := by
  intro script r
  have declared : ∀ c, Declared c (Script.broker.answer c script).1
    | .catalog => ⟨_, rfl⟩
    | .action (.provision _) | .action (.bind _ _) => .inl rfl
    | .action (.deprovision _) | .action (.unbind _ _) => trivial
  have route : r.route = .redirection "/v2/service_instances/x" := by decide
  have served : serve Script.broker r script =
      (.only (.redirection (shownAddress "/v2/service_instances/x" [])
        (fullAddress "/v2/service_instances/x" [])), script) := by
    rw [serve, Request.task, route]
    rfl
  rw [served]
  exact ⟨declared, _, rfl, rfl, rfl, not_isObject_redirection _ _⟩

end Http
end OpenBroker
