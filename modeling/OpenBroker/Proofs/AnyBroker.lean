import Mathlib.Data.List.Sublists
import OpenBroker.Broker.Basic
import OpenBroker.Proofs.Contract
import OpenBroker.Proofs.Except
import OpenBroker.Proofs.Failing
import OpenBroker.Proofs.Lineage

/-! # The contract with any broker

Nothing is known of a broker but its answers, and an answer may depend on everything that it
was asked before.  Still every answer is settled in one way: a value by `Prescription.ofReturned`,
an error by `Prescription.ofRaised`.  Both are stated without outcomes, from the value or the
error right to the status, the document and the line.

Of an error only two things are looked at, the sentinels that it belongs to and its message.
There are errors for all combinations of the two (`Failure.exists_of_membership`).  The message is
asked for last, and only of an error that belongs to no sentinel of the action; but then asking for
it may fail, and the action has no outcome at all (`exists_crash_of_misplaced`).  Nor has it one if
the broker returned an object for the address of a dashboard that cannot tell whether it is one.
-/
namespace OpenBroker

/-- The statuses for an action that failed. -/
def Action.failureStatuses : Action → List Nat
  | provision _ => [409, 500]
  | deprovision _ => [410, 500]
  | bind _ _ => [404, 409, 500]
  | unbind _ _ => [404, 410, 500]

namespace Prescription

/-- **What is prescribed for a value** that an action returned, with the document of it.  If it
cannot be told whether an address is missing there is nothing to prescribe, but the complaint about
that. -/
def ofReturned (v : Value) (document : Json) : Action → Except Complaint Prescription
  | .provision _ => v.truth.map fun something =>
    ⟨201, .object [("dashboard_url", if something then document else .string [])], none⟩
  | .deprovision _ => .ok ⟨200, .object [], none⟩
  | .bind _ _ =>
    match v with
    | .null => .ok ⟨201, .object [], none⟩
    | _ => .ok ⟨201, document, none⟩
  | .unbind _ _ => .ok ⟨200, .object [], none⟩

/-- What is prescribed for an error that an operation does not know, with its message. -/
def ofMessage (start message : Text) : Prescription :=
  ⟨500, .object [("description", .string message)], some (start ++ message)⟩

/-- **What is prescribed for an error** that an action raised: the first of its sentinels that
the error belongs to decides, and if there is none the message does.  If that cannot be said there
is nothing to prescribe, but the failure of saying it. -/
def ofRaised (f : Failure) : Action → Except Failure Prescription
  | .provision i =>
    if f.isA .instanceAlreadyExists then
      .ok ⟨409, .object [], some ("Provisioning error: instance " ++ i ++ " already exists")⟩
    else if f.isA .instanceLimitReached then
      .ok ⟨500,
        .object [("description", .string "instance limit for this service has been reached")],
        some "Provisioning error: instance limit for this service has been reached"⟩
    else f.message.map (ofMessage "Provisioning error: ")
  | .deprovision i =>
    if f.isA .instanceDoesNotExist then
      .ok ⟨410, .object [], some ("Deprovisioning error: instance " ++ i ++ " does not exist")⟩
    else f.message.map (ofMessage "Deprovisioning error: ")
  | .bind i _ =>
    if f.isA .instanceDoesNotExist then
      .ok ⟨404, .object [("description", .string "instance does not exist")],
        some ("Binding error: instance " ++ i ++ " does not exist")⟩
    else if f.isA .bindingAlreadyExists then
      .ok ⟨409, .object [("description", .string "binding already exists")],
        some "Binding error: binding already exists"⟩
    else f.message.map (ofMessage "Binding error: ")
  | .unbind i b =>
    if f.isA .instanceDoesNotExist then
      .ok ⟨404, .object [], some ("Unbinding error: instance " ++ i ++ " does not exist")⟩
    else if f.isA .bindingDoesNotExist then
      .ok ⟨410, .object [], some ("Unbinding error: binding " ++ b ++ " does not exist")⟩
    else f.message.map (ofMessage "Unbinding error: ")

variable {f : Failure} {a : Action} {p : Prescription}

/-- A value leaves no line in the log. -/
theorem line?_ofReturned {v : Value} {d : Json} (prescribed : ofReturned v d a = .ok p) :
    p.line? = none := by
  cases a with
  | provision =>
    obtain ⟨something, -, rfl⟩ := exists_of_map_eq_ok prescribed
    rfl
  | deprovision | unbind =>
    cases prescribed
    rfl
  | bind =>
    cases v <;> cases prescribed <;> rfl

/-- **Prescribed for a failure** of an action: one of its statuses, nothing or a description, and a
line in the log. -/
structure ForFailure (p : Prescription) (a : Action) : Prop where
  status : p.status ∈ a.failureStatuses
  document : p.document = .object [] ∨ ∃ t, p.document = .object [("description", .string t)]
  line : ∃ line, p.line? = some line

/-- What is prescribed for an error is prescribed for a failure, whatever the error is. -/
theorem forFailure_ofRaised (prescribed : ofRaised f a = .ok p) : p.ForFailure a := by
  have unknown {start : Text} (some500 : 500 ∈ a.failureStatuses)
      (h : f.message.map (ofMessage start) = .ok p) : p.ForFailure a := by
    obtain ⟨m, -, rfl⟩ := exists_of_map_eq_ok h
    exact ⟨some500, .inr ⟨m, rfl⟩, _, rfl⟩
  have nothing {status : Nat} {line : Text} (listed : status ∈ a.failureStatuses) :
      ForFailure ⟨status, .object [], some line⟩ a := ⟨listed, .inl rfl, _, rfl⟩
  have described {status : Nat} {t line : Text} (listed : status ∈ a.failureStatuses) :
      ForFailure ⟨status, .object [("description", .string t)], some line⟩ a :=
    ⟨listed, .inr ⟨t, rfl⟩, _, rfl⟩
  unfold ofRaised at prescribed
  cases a with
  | deprovision i =>
    dsimp only at prescribed
    split at prescribed
    · cases prescribed
      exact nothing (by simp [Action.failureStatuses])
    · exact unknown (by simp [Action.failureStatuses]) prescribed
  | provision i =>
    dsimp only at prescribed
    split at prescribed
    · cases prescribed
      exact nothing (by simp [Action.failureStatuses])
    split at prescribed
    · cases prescribed
      exact described (by simp [Action.failureStatuses])
    · exact unknown (by simp [Action.failureStatuses]) prescribed
  | bind i b =>
    dsimp only at prescribed
    split at prescribed
    · cases prescribed
      exact described (by simp [Action.failureStatuses])
    split at prescribed
    · cases prescribed
      exact described (by simp [Action.failureStatuses])
    · exact unknown (by simp [Action.failureStatuses]) prescribed
  | unbind i b =>
    dsimp only at prescribed
    split at prescribed
    · cases prescribed
      exact nothing (by simp [Action.failureStatuses])
    split at prescribed
    · cases prescribed
      exact nothing (by simp [Action.failureStatuses])
    · exact unknown (by simp [Action.failureStatuses]) prescribed

end Prescription

/-! ## What can be seen of an error -/

namespace Failure

/-- A class of errors that belong to some sentinels.  It is derived from a class that gives no
message away, and from the sentinels, the common one last. -/
def classOf (sentinels : List Sentinel) : ErrorClass :=
  ⟨⟨[], .standard (.named "ValueError")⟩, sentinels.reverse.map fun t => ⟨[], .sentinel t⟩⟩

/-- There is such a class for all sentinels with the common one among them, and for none. -/
theorem classOf_sublists : ∀ sentinels ∈ Sentinel.all.sublists,
    (sentinels = [] ∨ .brokerError ∈ sentinels) →
      (classOf sentinels).lineage.isOk ∧ (classOf sentinels).voice = .plain ∧
        (classOf sentinels).isTakenBySentinel = false ∧
        ∀ t ∈ Sentinel.all, (classOf sentinels).isA t = sentinels.contains t := by
  decide +kernel

/-- **Everything that can be seen of an error** is seen of some: an error may belong to any
sentinels, as long as it belongs to the common one along with any other, and have any message. -/
theorem exists_of_membership (belongs : Sentinel → Bool)
    (common : ∀ t, belongs t = true → belongs .brokerError = true) (message : Text) :
    ∃ cls l, cls.lineage = .ok l ∧ (raised cls [.text message]).isOrdinary = true ∧
      (raised cls [.text message]).message = .ok message ∧
      ∀ t, (raised cls [.text message]).isA t = belongs t := by
  have all : ∀ t, t ∈ Sentinel.all := fun t => by cases t <;> decide
  -- the class is made from the sentinels on the list that the error is to belong to
  have mem : ∀ t, (Sentinel.all.filter belongs).contains t = belongs t := fun t => by
    simp [all t]
  have closed : Sentinel.all.filter belongs = [] ∨
      .brokerError ∈ Sentinel.all.filter belongs := by
    rcases List.eq_nil_or_concat (Sentinel.all.filter belongs) with h | ⟨front, t, h⟩
    · exact .inl h
    · have ht : t ∈ Sentinel.all.filter belongs := by simp [h]
      have hc := common t (List.mem_filter.mp ht).2
      exact .inr (List.mem_filter.mpr ⟨all _, hc⟩)
  obtain ⟨order, voice, taken, isA⟩ :=
    classOf_sublists _ (List.mem_sublists.mpr List.filter_sublist) closed
  cases lineage : (classOf (Sentinel.all.filter belongs)).lineage with
  | error e =>
    rw [lineage] at order
    cases order
  | ok l =>
    refine ⟨_, l, lineage, ?_, message_of_text voice taken message,
      fun t => (isA t (all t)).trans (mem t)⟩
    simp [isOrdinary, ErrorClass.isOrdinary, classOf, ErrorClass.strands]
    exact .inl (by decide)

end Failure

/-! ## From the answer of a broker to the reply -/

namespace Outcome

variable {a : Action} {f : Failure} {first second : Sentinel} {o o' : Outcome}

theorem capture_of_one (ordinary : f.isOrdinary = true) (listed : recognised a = [(first, o)]) :
    capture a (.error f) = if f.isA first then .ok o else f.message.map unexpected := by
  rw [capture, if_pos ordinary, ofFailure, listed]
  by_cases h : f.isA first = true
  · simp only [List.find?_cons, h, if_true]
  · simp only [List.find?_cons, List.find?_nil, h, Bool.false_eq_true, if_false]

/-- Of two sentinels that an error belongs to, the first on the list of the action counts. -/
theorem capture_of_two (ordinary : f.isOrdinary = true)
    (listed : recognised a = [(first, o), (second, o')]) :
    capture a (.error f) =
      if f.isA first then .ok o else if f.isA second then .ok o'
      else f.message.map unexpected := by
  rw [capture, if_pos ordinary, ofFailure, listed]
  by_cases h : f.isA first = true
  · simp only [List.find?_cons, h, if_true]
  · by_cases h' : f.isA second = true
    · simp only [List.find?_cons, h, h', Bool.false_eq_true, if_false, if_true]
    · simp only [List.find?_cons, List.find?_nil, h, h', Bool.false_eq_true, if_false]

variable {v : Value} {something : Bool} {c : Complaint}

/-- An address counts as it is, or as missing. -/
theorem capture_of_truth (i : Text) (truth : v.truth = .ok something) :
    capture (.provision i) (.ok v) = .ok (provisioned (if something then v else .text [])) := by
  simp only [capture, ofValue, Action.operation, truth]
  rfl

theorem capture_of_unclear (i : Text) (unclear : v.truth = .error c) :
    capture (.provision i) (.ok v) = .error (.ofComplaint c) := by
  simp only [capture, ofValue, Action.operation, unclear]
  rfl

end Outcome

namespace Http

open Memory (answered_eq_served)

/-- Where there is no outcome, the failure in its place is answered. -/
theorem answered_of_captured {a : Action} {answer : Except Failure Value} {g : Failure}
    (captured : Outcome.capture a answer = .error g) :
    answered (.action a) answer = (Served.failed g).after [.action a] [] := by
  rw [answered, settle, captured]

/-- What is served for an action as it is prescribed, or for the failure that took the place of a
prescription: one call was made, and then nothing but the failure counts. -/
def servedOr (a : Action) : Except Failure Prescription → Served
  | .ok p => p.served a
  | .error g => (Served.failed g).after [.action a] []

/-- **A value is answered** as it is prescribed, if there is anything to prescribe. -/
theorem answered_of_returned (a : Action) {v : Value} {d : Json} (document : v.document = .ok d) :
    answered (.action a) (.ok v) =
      servedOr a ((Prescription.ofReturned v d a).mapError .ofComplaint) := by
  cases a with
  | provision i =>
    rw [Prescription.ofReturned]
    cases truth : v.truth with
    | error c => rw [answered_of_captured (Outcome.capture_of_unclear i truth)]; rfl
    | ok something =>
      refine answered_eq_served (Outcome.capture_of_truth i truth) rfl rfl rfl ?_
      cases something with
      | false => rfl
      | true =>
        simp [Value.jsonText, Value.document, Value.memberDocuments, Value.keyText, document]
        rfl
  | deprovision i => exact answered_eq_served rfl rfl rfl rfl rfl
  | bind i b =>
    cases v with
    | null => exact answered_eq_served rfl rfl rfl rfl rfl
    | _ =>
      refine answered_eq_served rfl rfl rfl rfl ?_
      simp [Value.jsonText, document, Except.map]
  | unbind i b => exact answered_eq_served rfl rfl rfl rfl rfl

/-- An error that is not recognised is answered with its message, if that can be said. -/
theorem answered_of_unrecognised {a : Action} {f : Failure} {start : Text}
    (captured : Outcome.capture a (.error f) = f.message.map .unexpected)
    (mapped : ∀ m, WireAnswer.of a.operation (.unexpected m) =
      some ⟨500, WireAnswer.described m, some (start ++ m)⟩) :
    answered (.action a) (.error f) =
      servedOr a (f.message.map (Prescription.ofMessage start)) := by
  cases said : f.message with
  | ok m =>
    rw [said] at captured
    exact answered_eq_served captured (mapped m) rfl rfl rfl
  | error g =>
    rw [said] at captured
    exact answered_of_captured captured

/-- **An error is answered** as it is prescribed, if there is anything to prescribe. -/
theorem answered_of_raised (a : Action) {f : Failure} (ordinary : f.isOrdinary = true) :
    answered (.action a) (.error f) = servedOr a (Prescription.ofRaised f a) := by
  cases a with
  | provision i =>
    have captured := Outcome.capture_of_two (a := .provision i) ordinary rfl
    rw [Prescription.ofRaised]
    by_cases present : f.isA .instanceAlreadyExists = true
    · rw [if_pos present] at captured ⊢
      exact answered_eq_served captured rfl rfl rfl rfl
    · rw [if_neg present] at captured ⊢
      by_cases full : f.isA .instanceLimitReached = true
      · rw [if_pos full] at captured ⊢
        exact answered_eq_served captured rfl rfl rfl rfl
      · rw [if_neg full] at captured ⊢
        exact answered_of_unrecognised captured fun _ => rfl
  | deprovision i =>
    have captured := Outcome.capture_of_one (a := .deprovision i) ordinary rfl
    rw [Prescription.ofRaised]
    by_cases gone : f.isA .instanceDoesNotExist = true
    · rw [if_pos gone] at captured ⊢
      exact answered_eq_served captured rfl rfl rfl rfl
    · rw [if_neg gone] at captured ⊢
      exact answered_of_unrecognised captured fun _ => rfl
  | bind i b =>
    have captured := Outcome.capture_of_two (a := .bind i b) ordinary rfl
    rw [Prescription.ofRaised]
    by_cases gone : f.isA .instanceDoesNotExist = true
    · rw [if_pos gone] at captured ⊢
      exact answered_eq_served captured rfl rfl rfl rfl
    · rw [if_neg gone] at captured ⊢
      by_cases bound : f.isA .bindingAlreadyExists = true
      · rw [if_pos bound] at captured ⊢
        exact answered_eq_served captured rfl rfl rfl rfl
      · rw [if_neg bound] at captured ⊢
        exact answered_of_unrecognised captured fun _ => rfl
  | unbind i b =>
    have captured := Outcome.capture_of_two (a := .unbind i b) ordinary rfl
    rw [Prescription.ofRaised]
    by_cases gone : f.isA .instanceDoesNotExist = true
    · rw [if_pos gone] at captured ⊢
      exact answered_eq_served captured rfl rfl rfl rfl
    · rw [if_neg gone] at captured ⊢
      by_cases unbound : f.isA .bindingDoesNotExist = true
      · rw [if_pos unbound] at captured ⊢
        exact answered_eq_served captured rfl rfl rfl rfl
      · rw [if_neg unbound] at captured ⊢
        exact answered_of_unrecognised captured fun _ => rfl

/-- **Any broker is served by the contract.**  A request that is delivered to an action makes one
call of the broker, for this action, whatever the broker is and whatever it was asked before.
A value that has a document is answered as it is prescribed for values, without a line in the
log; an error that can be caught is answered as it is prescribed for errors, with one line.

An error that belongs to no sentinel of the action, and cannot say what it is, is prescribed
nothing.  There is no line for it, and what is answered is the failure of saying it.  In the same
way a complaint is answered about an address of which it cannot be told whether it is missing. -/
theorem serve_returned_or_raised {σ : Type} (broker : Broker σ) (r : Request) (a : Action)
    (delivered : r.Delivers a) (s : σ) :
    let answer := (broker.answer (.action a) s).1
    let served := (serve broker r s).1
    (serve broker r s).2 = (broker.answer (.action a) s).2 ∧
      (∀ v d, answer = .ok v → v.document = .ok d →
        (∀ p, Prescription.ofReturned v d a = .ok p → served =
          ⟨.ok (Reply.json p.status (Json.text p.document)), [.action a], [], none⟩) ∧
        ∀ c, Prescription.ofReturned v d a = .error c → served =
          ⟨.ok Reply.internalError, [.action a], [], some ⟨some c.message, c.className⟩⟩) ∧
      ∀ f, answer = .error f → f.isOrdinary = true →
        (∀ p, Prescription.ofRaised f a = .ok p → ∃ line, p.line? = some line ∧ served =
          ⟨.ok (Reply.json p.status (Json.text p.document)), [.action a], [line], none⟩) ∧
        ∀ g, Prescription.ofRaised f a = .error g → served =
          ⟨(Served.failed g).reply, [.action a], [], (Served.failed g).crash?⟩ := by
  intro answer served
  simp only [served, serve_action_of_delivers broker delivered s, true_and]
  refine ⟨fun v d returned document => ?_, fun f raised ordinary => ?_⟩
  · rw [show (broker.answer (.action a) s).1 = .ok v from returned,
      answered_of_returned a document]
    refine ⟨fun p prescribed => ?_, fun c unclear => ?_⟩
    · rw [prescribed, mapError_ok, servedOr, Prescription.served,
        Prescription.line?_ofReturned prescribed]
      rfl
    · rw [unclear]
      exact congrArg (Served.after [.action a] []) (Served.failed_ofComplaint c)
  · rw [show (broker.answer (.action a) s).1 = .error f from raised,
      answered_of_raised a ordinary]
    refine ⟨fun p prescribed => ?_, fun g unsaid => ?_⟩
    · obtain ⟨line, h⟩ := (Prescription.forFailure_ofRaised prescribed).line
      refine ⟨line, h, ?_⟩
      rw [prescribed, servedOr, Prescription.served, h]
      rfl
    · simp [unsaid, servedOr, Served.after]

/-- A broker that hands out a list as credentials, and does not know the instance when it is
asked once more.  Its error belongs to two sentinels of the operation, to the second of them
directly and to the first through one more derivation. -/
theorem serve_returned_or_raised_twice :
    let f : Failure :=
      .raised (.ofName "BindingAlreadyExistsError+Sub:InstanceDoesNotExistError") []
    let script : Script := ⟨[], [], [], [.ok (.list [.text "key"]), .error f], []⟩
    let r : Request := ⟨"PUT", "/v2/service_instances/db/service_bindings/app", []⟩
    let next := (serve Script.broker r script).2
    r.Delivers (.bind "db" "app") ∧
      f.isA .bindingAlreadyExists = true ∧ f.isA .instanceDoesNotExist = true ∧
      (serve Script.broker r script).1 =
        ⟨.ok (Reply.json 201 "[\"key\"]"), [.action (.bind "db" "app")], [], none⟩ ∧
      (serve Script.broker r next).1 =
        ⟨.ok (Reply.json 404 "\x7b\"description\": \"instance does not exist\"\x7d"),
          [.action (.bind "db" "app")], ["Binding error: instance db does not exist"], none⟩ := by
  intro f script r next
  have delivered : r.Delivers (.bind "db" "app") :=
    Request.delivers_iff.mpr ⟨by decide, by decide +kernel, by decide⟩
  have gone : f.isA .instanceDoesNotExist = true := by decide +kernel
  have first := serve_returned_or_raised Script.broker r _ delivered script
  have second := serve_returned_or_raised Script.broker r _ delivered next
  have state : next = ⟨[], [], [], [.error f], []⟩ := first.1
  rw [state] at second ⊢
  have prescribed : Prescription.ofRaised f (.bind "db" "app") = .ok ⟨404,
      .object [("description", .string "instance does not exist")],
      some "Binding error: instance db does not exist"⟩ := by
    rw [Prescription.ofRaised, if_pos gone]
    rfl
  obtain ⟨line, hline, served⟩ := (second.2.2 f rfl (by decide +kernel)).1 _ prescribed
  cases hline
  refine ⟨delivered, by decide +kernel, gone, ?_, served.trans ?_⟩
  · rw [(first.2.1 _ _ rfl rfl).1 _ rfl]
    rfl
  · rfl

/-- **An error without a message.**  A broker fails to remove an instance with an error about a
character before the first of a text.  It belongs to no sentinel of the action, and saying what it
is fails: there is no line in the log, and the request has crashed. -/
theorem exists_crash_of_misplaced :
    let f : Failure := .raised (.named "UnicodeEncodeError")
      [.text "utf-8", .text "x", .int (-1), .int 0, .text "no"]
    let script : Script := ⟨[], [], [.error f], [], []⟩
    let r : Request := ⟨"DELETE", "/v2/service_instances/db", []⟩
    r.Delivers (.deprovision "db") ∧ f.isOrdinary = true ∧
      f.isA .instanceDoesNotExist = false ∧
      (serve Script.broker r script).1 =
        ⟨.ok Reply.internalError, [.action (.deprovision "db")], [],
          some ⟨some "<class 'str'> returned a result with an exception set", "SystemError"⟩⟩ := by
  intro f script r
  have delivered : r.Delivers (.deprovision "db") :=
    Request.delivers_iff.mpr ⟨by decide, by decide +kernel, by decide⟩
  have ordinary : f.isOrdinary = true := by decide +kernel
  have foreign : f.isA .instanceDoesNotExist = false := by decide +kernel
  have unsaid : f.message = .error .misplaced := Failure.message_of_before _ _ _ (by decide)
  have prescribed : Prescription.ofRaised f (.deprovision "db") = .error .misplaced := by
    rw [Prescription.ofRaised, if_neg (Bool.eq_false_iff.mp foreign), unsaid]
    rfl
  have served : (serve Script.broker r script).1 =
      answered (.action (.deprovision "db")) (.error f) :=
    congrArg Prod.fst (serve_action_of_delivers Script.broker delivered script)
  have said : Failure.misplaced.message =
      .ok "<class 'str'> returned a result with an exception set" :=
    Failure.message_of_text (by decide +kernel) (by decide +kernel) _
  have named : Failure.misplaced.className = "SystemError" := by decide +kernel
  refine ⟨delivered, ordinary, foreign, ?_⟩
  rw [served, answered_of_raised _ ordinary, prescribed, servedOr,
    Served.failed_of_message (by decide +kernel) rfl said, named]
  rfl

end Http
end OpenBroker
