import OpenBroker.Proofs.Document

/-! # What a failing catalog lets out

The catalog has no outcomes.  A broker that fails to show it has failed in a way of its own, and a
client learns that it did and nothing else: all such failures, whatever their class, their message
and their arguments, and all values that have no document, are answered with the same bytes
(`answered_of_concealed`).  The message goes to the log of the application, once.

An HTTP condition is another matter, for with it a broker says what is to be answered.  It is
answered with its status and its description, and is not reported (`answered_of_condition`).  Only
the conditions of the two classes that the router raises are answered as the router answers.  A
condition of any other class is told as it is, also if it borrows one of their statuses; and one
that is a reply already is not told at all.

What is concealed has to be said to the log.  A failure that cannot say what it is is not among
what is concealed here: it is answered in other words (`exists_told_of_borrowed_status`).

The endpoints of the actions do the opposite, and so their logs are different.  There a message is
answered as it is, a condition counts as any other failure, and the line goes to the log of
outcomes, which a request for the catalog never writes to.
-/
namespace OpenBroker
namespace Http

/-- **Concealed**: what a broker gave for its catalog, and a client does not learn.  It is an error
that can be caught, is no HTTP condition and can say what it is, or a value without a document. -/
def Concealed : Except Failure Value → Prop
  | .error f => f.isOrdinary = true ∧ f.condition? = none ∧ ∃ m, f.message = .ok m
  | .ok v => ¬ v.HasDocument

/-- **The complaint** about what is concealed: the message of an error, or what is wrong with a
value. -/
def complaint? : Except Failure Value → Option Text
  | .error f => f.message.toOption
  | .ok v =>
    match v.document with
    | .ok _ => none
    | .error c => some c.message

variable {answer : Except Failure Value}

/-- **What is concealed** is reported once, and answered like any fault of the application. -/
theorem answered_of_concealed (concealed : Concealed answer) :
    ∃ complaint className, complaint? answer = some complaint ∧
      answered .catalog answer = ⟨.ok Reply.internalError, [.catalog], [],
        some ⟨some complaint, className⟩⟩ := by
  cases answer with
  | error f =>
    obtain ⟨ordinary, other, m, said⟩ := concealed
    refine ⟨m, f.className, ?_, ?_⟩
    · rw [complaint?, said]
      rfl
    · rw [answered, Served.failed_of_message ordinary other said]
      rfl
  | ok v =>
    obtain ⟨c, unwritten⟩ := Value.exists_error_of_not_hasDocument concealed
    refine ⟨c.message, c.className, ?_, ?_⟩
    · rw [complaint?, unwritten]
    · rw [answered, Served.value_of_error 200 unwritten]
      rfl

/-- A status of a fault has a body. -/
theorem sent_described {status : Nat} (low : 400 ≤ status) (description : Text) :
    (Reply.described status description).sent = Reply.described status description := by
  refine if_neg (Bool.eq_false_iff.mp ?_)
  have status_eq : (Reply.described status description).status = status := rfl
  simp only [status_eq, Reply.isBodiless, Bool.or_eq_false_iff, Bool.and_eq_false_iff,
    decide_eq_false_iff_not, beq_eq_false_iff_ne]
  omega

/-- **What is told** about a condition for the handlers: what the router says, for its two classes,
and for all others the description, or the name if there is none or it is empty. -/
inductive Told : ConditionClass → (code : Nat) → (name : Text) → (description? : Option Text) →
    Reply → Prop
  | unknownPath {code : Nat} {name : Text} {description? : Option Text} :
    Told .unknownPath code name description? (Reply.described 404 "resource not found")
  | methodNotAllowed {code : Nat} {name : Text} {description? : Option Text} :
    Told .methodNotAllowed code name description? (Reply.described 405 "method not allowed")
  | described {code : Nat} {name description : Text} (given : description ≠ []) :
    Told .other code name (some description) (Reply.described code description)
  | named {code : Nat} {name : Text} {description? : Option Text}
    (missing : description?.getD [] = []) :
    Told .other code name description? (Reply.described code name)

/-- **An HTTP condition** of a fault is answered as it is told, and not reported. -/
theorem answered_of_condition {f : Failure} {cls : ConditionClass} {code : Nat} {name : Text}
    {description? : Option Text} (is : f.condition? = some (.handled cls code name description?))
    (fault : 400 ≤ code) :
    ∃ reply, Told cls code name description? reply ∧
      answered .catalog (.error f) = ⟨.ok reply, [.catalog], [], none⟩ := by
  have failed : Served.failed f = Served.condition (.handled cls code name description?) := by
    rw [Served.failed, if_pos (Failure.isOrdinary_of_condition is), is]
  rw [answered, failed]
  cases cls with
  | unknownPath => exact ⟨_, .unknownPath, rfl⟩
  | methodNotAllowed => exact ⟨_, .methodNotAllowed, rfl⟩
  | other =>
    have given : code ≠ 0 := by omega
    simp only [Served.condition, if_neg given, sent_described fault]
    cases description? with
    | none => exact ⟨_, .named rfl, rfl⟩
    | some description =>
      cases description with
      | nil => exact ⟨_, .named rfl, rfl⟩
      | cons c rest => exact ⟨_, .described (List.cons_ne_nil c rest), rfl⟩

/-- **Failures of the catalog do not leak.**  Two brokers may fail to show their catalogs in any
ways, except by an HTTP condition and by an error that cannot say what it is: with errors of any
classes, sentinels among them, any messages and any arguments, or with values that have no document.
Then the replies to a `GET` for the catalog are the same, and one that does not depend on the
brokers; and the complaint is reported to the log of the application, once.  An HTTP condition of a
fault that the handlers are asked about is answered as it is told, and is not reported.  In neither
case is there a line for the log of outcomes. -/
theorem serve_concealed_or_told {σ τ : Type} (broker : Broker σ) (other : Broker τ) {r : Request}
    (verb : r.verb = "GET") (path : rooted r.path = "/v2/catalog") (s : σ) (s' : τ) :
    let answer := (broker.answer .catalog s).1
    let served := (serve broker r s).1
    (Concealed answer →
      served.reply = .ok ⟨500, some "application/json",
        "\x7b\"description\":\"internal server error\"\x7d\n", none, none⟩ ∧
      (Concealed (other.answer .catalog s').1 → (serve other r s').1.reply = served.reply) ∧
      served.lines = [] ∧
      ∃ complaint c, complaint? answer = some complaint ∧ served.crash? = some c ∧
        c.line r = "Unhandled exception: " ++ complaint) ∧
    ∀ f cls code name description?, answer = .error f →
      f.condition? = some (.handled cls code name description?) → 400 ≤ code →
      ∃ reply, Told cls code name description? reply ∧ served.reply = .ok reply ∧
        served.lines = [] ∧ served.crash? = none := by
  intro answer served
  have settled : served = answered .catalog answer :=
    congrArg Prod.fst (serve_of_catalog broker verb path s)
  have settled' : (serve other r s').1 = answered .catalog (other.answer .catalog s').1 :=
    congrArg Prod.fst (serve_of_catalog other verb path s')
  rw [settled, settled']
  constructor
  · intro concealed
    obtain ⟨complaint, className, complains, crashed⟩ := answered_of_concealed concealed
    rw [crashed]
    refine ⟨congrArg Except.ok (by decide +kernel), fun concealed' => ?_, rfl,
      complaint, _, complains, rfl, rfl⟩
    obtain ⟨complaint', className', -, crashed'⟩ := answered_of_concealed concealed'
    rw [crashed']
  · intro f cls code name description? failed is fault
    obtain ⟨reply, told, answered⟩ := answered_of_condition is fault
    rw [failed, answered]
    exact ⟨reply, told, rfl, rfl, rfl⟩

/-- One broker raises a sentinel of its own, and another returns a list with a set in it.  A third
asks for patience and says for what, and a fourth does not say it. -/
theorem serve_concealed_or_told_sentinel :
    let script (answer : Except Failure Value) : Script := ⟨[answer], [], [], [], []⟩
    let raises := script (.error (.raised (.ofName "Sub:InstanceDoesNotExistError") [.text "db-7"]))
    let returns := script (.ok (.list [.null, .set [.text "db-7"]]))
    let waits (description : Text) := script (.error (.http (.ofStatus 429 (some description))))
    let r : Request := ⟨"get", "//v2/catalog", "again"⟩
    r.verb = "GET" ∧ rooted r.path = "/v2/catalog" ∧
      (serve Script.broker r returns).1.reply = (serve Script.broker r raises).1.reply ∧
      (∃ c, (serve Script.broker r raises).1.crash? = some c ∧
        c.line r = "Unhandled exception: db-7") ∧
      (serve Script.broker r (waits "the plans are being made")).1.reply =
        .ok (Reply.described 429 "the plans are being made") ∧
      (serve Script.broker r (waits [])).1.reply = .ok (Reply.described 429 "Too Many Requests") ∧
      (serve Script.broker r (waits [])).1.crash? = none := by
  intro script raises returns waits r
  have verb : r.verb = "GET" := by decide
  have path : rooted r.path = "/v2/catalog" := by decide
  have unwritten : Concealed (Script.broker.answer .catalog returns).1 := by
    intro document
    cases document with
    | list items parts =>
      exact nomatch parts _ (List.mem_cons_of_mem _ (List.mem_singleton_self _))
  have message : complaint? (Script.broker.answer .catalog raises).1 = some "db-7" := by
    decide +kernel
  have concealed : Concealed (Script.broker.answer .catalog raises).1 :=
    ⟨(by decide +kernel : (ErrorClass.ofName "Sub:InstanceDoesNotExistError").isOrdinary = true),
      rfl, _, eq_ok_of_toOption message⟩
  obtain ⟨hidden, -⟩ :=
    serve_concealed_or_told Script.broker Script.broker verb path raises returns
  obtain ⟨-, same, -, complaint, c, complains, crashed, line⟩ := hidden concealed
  obtain rfl : complaint = "db-7" := Option.some.inj (complains.symm.trans message)
  have name : HttpCondition.nameOf 429 = "Too Many Requests" := by decide +kernel
  have condition (description : Text) : HttpCondition.ofStatus 429 (some description) =
      .handled .other 429 "Too Many Requests" (some description) := by
    rw [← name]
    rfl
  have told (description : Text) :=
    (serve_concealed_or_told Script.broker Script.broker verb path (waits description) returns).2
      (.http (.ofStatus 429 (some description))) .other 429 "Too Many Requests"
      (some description) rfl (congrArg some (condition description)) (by decide)
  obtain ⟨_, described, replied, -, -⟩ := told "the plans are being made"
  obtain ⟨_, named, replied', -, silent⟩ := told []
  refine ⟨verb, path, same unwritten, ⟨c, crashed, line⟩, replied.trans ?_, replied'.trans ?_,
    silent⟩
  · cases described with
    | described => rfl
    | named missing => cases missing
  · cases named with
    | described given => exact absurd rfl given
    | named => rfl

/-- **A borrowed status, and an error without a message.**  A condition of a class of its own has
the status of an unknown path, and its description is told.  An error about a character before the
first of a text is no condition, and it is not answered like other errors: the reply is the one to
a request that is reported itself. -/
theorem exists_told_of_borrowed_status :
    let script (f : Failure) : Script := ⟨[.error f], [], [], [], []⟩
    let borrowed : Failure := .http (.handled .other 404 "Not Found" (some "no such plan"))
    let misplaced : Failure := .raised (.named "UnicodeEncodeError")
      [.text "utf-8", .text "x", .int (-1), .int 0, .text "no"]
    let r : Request := ⟨"GET", "/v2/catalog", []⟩
    (serve Script.broker r (script borrowed)).1.reply =
        .ok (Reply.described 404 "no such plan") ∧
      Reply.described 404 "no such plan" ≠ Reply.described 404 "resource not found" ∧
      misplaced.isOrdinary = true ∧ misplaced.condition? = none ∧
      (∃ reply, (serve Script.broker r (script misplaced)).1.reply = .ok reply ∧
        reply.status = 500 ∧ reply ≠ Reply.internalError) ∧
      (serve Script.broker r (script misplaced)).1.crash? = some ⟨none, "SystemError"⟩ := by
  intro script borrowed misplaced r
  have verb : r.verb = "GET" := by decide
  have path : rooted r.path = "/v2/catalog" := by decide
  have served (f : Failure) :
      (serve Script.broker r (script f)).1 = (Served.failed f).after [.catalog] [] :=
    congrArg Prod.fst (serve_of_catalog Script.broker verb path (script f))
  have ordinary : misplaced.isOrdinary = true := by decide +kernel
  have unsaid : misplaced.message = .error .misplaced :=
    Failure.message_of_before _ _ _ (by decide)
  have named : Failure.misplaced.className = "SystemError" := by decide +kernel
  have caught : Failure.misplaced.isOrdinary = true := by decide +kernel
  have abandoned : Served.failed misplaced = Served.abandoned "SystemError" := by
    rw [Served.failed, if_pos ordinary]
    show Served.crashed misplaced = _
    rw [Served.crashed, unsaid]
    dsimp only
    rw [if_pos caught, named]
  refine ⟨?_, by decide +kernel, ordinary, rfl, ?_, ?_⟩
  · rw [served]
    rfl
  · rw [served, abandoned]
    exact ⟨_, rfl, by decide +kernel, by decide +kernel⟩
  · rw [served, abandoned]
    rfl

end Http
end OpenBroker
