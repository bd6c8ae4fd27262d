import OpenBroker.Proofs.Document
import OpenBroker.Proofs.Goal

/-! # When a request for an action crashes

Whatever a broker answers to an action is given a status by the operation: a value the one for
what was carried out, and an error, of whatever class, one of those for what failed.  There are two
points where this can go wrong, and then the request has crashed (`serve_crash_iff`).

The answer is written, and a part of it may have no document: the address of a dashboard, or the
credentials, as the broker returned them.  The request is then answered like any fault of the
application itself, although the action was carried out.  The address of a dashboard is not written
if it counts as missing, and an object in its place may not tell whether it does; that is no
better.  Nothing is written of what a removal returns.

And an error that the operation does not know is shown with its message, and to say what it is may
fail.  What is answered then is the failure of saying it, if that can be caught, so that it may also
be an HTTP condition.
-/
namespace OpenBroker

namespace Prescription

theorem status_ofReturned {v : Value} {d : Json} {a : Action} {p : Prescription}
    (prescribed : ofReturned v d a = .ok p) : p.status = a.doneStatus := by
  cases a with
  | provision =>
    obtain ⟨something, -, rfl⟩ := exists_of_map_eq_ok prescribed
    rfl
  | deprovision | unbind =>
    cases prescribed
    rfl
  | bind =>
    cases v <;> cases prescribed <;> rfl

end Prescription

namespace Http

/-- **Unwritable**: the answer to the action would have to show the value, and that has no
document.  The address of a dashboard is shown if it counts as something, and where it cannot be
told whether it does there is no answer to write either. -/
def Unwritable (v : Value) : Action → Prop
  | .provision _ => (∃ c, v.truth = .error c) ∨ v.truth = .ok true ∧ ¬ v.HasDocument
  | .bind _ _ => ¬ v.HasDocument
  | .deprovision _ | .unbind _ _ => False

variable {a : Action} {v : Value}

/-- **A value that can be shown** is answered with the status for what was carried out. -/
theorem exists_answered_of_shown (shown : ¬ Unwritable v a) :
    ∃ j, answered (.action a) (.ok v) = (⟨a.doneStatus, j, none⟩ : Prescription).served a := by
  have written {d : Json} {p : Prescription} (document : v.document = .ok d)
      (prescribed : Prescription.ofReturned v d a = .ok p) :
      ∃ j, answered (.action a) (.ok v) =
        (⟨a.doneStatus, j, none⟩ : Prescription).served a := by
    refine ⟨p.document, ?_⟩
    rw [answered_of_returned a document, prescribed, ← Prescription.status_ofReturned prescribed,
      ← Prescription.line?_ofReturned prescribed]
    rfl
  cases a with
  | deprovision i | unbind i b =>
    exact ⟨.object [], Memory.answered_eq_served rfl rfl rfl rfl rfl⟩
  | bind i b =>
    obtain ⟨d, document⟩ := Value.exists_document_iff.mpr (Classical.not_not.mp shown)
    cases v <;> exact written document rfl
  | provision i =>
    cases truth : v.truth with
    | error c => exact absurd (.inl ⟨c, truth⟩) shown
    | ok something =>
      cases something with
      | false =>
        -- it is not looked at any further, whether it has a document or not
        exact ⟨.object [("dashboard_url", .string [])],
          Memory.answered_eq_served (Outcome.capture_of_truth i truth) rfl rfl rfl rfl⟩
      | true =>
        have has : v.HasDocument :=
          Classical.byContradiction fun none => shown (.inr ⟨truth, none⟩)
        obtain ⟨d, document⟩ := Value.exists_document_iff.mpr has
        have prescribed : Prescription.ofReturned v d (.provision i) =
            .ok ⟨201, .object [("dashboard_url", d)], none⟩ := by
          rw [Prescription.ofReturned, truth]
          rfl
        exact written document prescribed

/-- A body that has no document makes a request crash, whatever its status would have been. -/
theorem settle_of_unwritten {answer : Except Failure Value} {o : Outcome} {w : WireAnswer}
    {c : Complaint} (captured : Outcome.capture a answer = .ok o)
    (mapped : WireAnswer.of a.operation o = some w) (unwritten : w.body.document = .error c) :
    settle a answer = ⟨.ok Reply.internalError, [], w.logLine.toList,
      some ⟨some c.message, c.className⟩⟩ := by
  unfold settle
  rw [captured]
  dsimp only
  rw [mapped]
  dsimp only
  rw [Served.value_of_error _ unwritten]
  simp only [Served.after, List.append_nil]

/-- **A value that cannot be shown** makes the request crash. -/
theorem exists_answered_of_unwritable (unwritable : Unwritable v a) :
    ∃ message cls, answered (.action a) (.ok v) =
      ⟨.ok Reply.internalError, [.action a], [], some ⟨some message, cls⟩⟩ := by
  cases a with
  | deprovision | unbind => cases unwritable
  | bind i b =>
    obtain ⟨c, unwritten⟩ := Value.exists_error_of_not_hasDocument unwritable
    have captured : Outcome.capture (.bind i b) (.ok v) = .ok (.bound v) := by
      cases v with
      | null => cases unwritten
      | _ => rfl
    have settled := settle_of_unwritten captured rfl unwritten
    exact ⟨_, _, congrArg (Served.after [.action (.bind i b)] []) settled⟩
  | provision i =>
    rcases unwritable with ⟨c, unclear⟩ | ⟨truthy, none⟩
    · refine ⟨c.message, c.className, ?_⟩
      rw [answered_of_captured (Outcome.capture_of_unclear i unclear), Served.failed_ofComplaint]
      rfl
    · obtain ⟨c, unwritten⟩ := Value.exists_error_of_not_hasDocument none
      have unwritten' : (Value.mapping [(.text "dashboard_url", v)]).document = .error c := by
        simp only [Value.document, Value.memberDocuments, Value.keyText, unwritten]
        rfl
      have settled := settle_of_unwritten (Outcome.capture_of_truth i truthy) rfl unwritten'
      exact ⟨_, _, congrArg (Served.after [.action (.provision i)] []) settled⟩

/-- **Unsaid**: the broker raised an error that the action does not know, and saying what it is
fails with another. -/
def Unsaid (a : Action) (answer : Except Failure Value) (g : Failure) : Prop :=
  ∃ f, answer = .error f ∧ Prescription.ofRaised f a = .error g

/-- What an error failed with when it was to be said is one failure. -/
theorem Unsaid.unique {answer : Except Failure Value} {g g' : Failure} (unsaid : Unsaid a answer g)
    (unsaid' : Unsaid a answer g') : g' = g := by
  obtain ⟨f, rfl, failed⟩ := unsaid
  obtain ⟨f', same, failed'⟩ := unsaid'
  cases same
  cases failed.symm.trans failed'
  rfl

theorem not_unsaid_of_returned (g : Failure) : ¬ Unsaid a (.ok v) g := by
  rintro ⟨f, raised, -⟩
  cases raised

theorem not_unsaid_of_prescribed {f : Failure} {p : Prescription}
    (prescribed : Prescription.ofRaised f a = .ok p) (g : Failure) : ¬ Unsaid a (.error f) g := by
  rintro ⟨f', same, unsaid⟩
  cases same
  cases prescribed.symm.trans unsaid

/-- **The ways in which an action is answered**, with what is served for it. -/
inductive Settled (a : Action) : Except Failure Value → Served → Prop
  | shown (v : Value) (shown : ¬ Unwritable v a) (j : Json) :
    Settled a (.ok v) ((⟨a.doneStatus, j, none⟩ : Prescription).served a)
  | unwritable (v : Value) (unwritable : Unwritable v a) (message cls : Text) :
    Settled a (.ok v) ⟨.ok Reply.internalError, [.action a], [], some ⟨some message, cls⟩⟩
  | prescribed (f : Failure) (p : Prescription) (prescribed : Prescription.ofRaised f a = .ok p) :
    Settled a (.error f) (p.served a)
  | unsaid (f g : Failure) (unsaid : Prescription.ofRaised f a = .error g) :
    Settled a (.error f) ⟨(Served.failed g).reply, [.action a], [], (Served.failed g).crash?⟩

variable {answer : Except Failure Value} {served : Served}

/-- An action is answered in one of these ways. -/
theorem settled_answered (ordinary : ∀ f, answer = .error f → f.isOrdinary = true) :
    Settled a answer (answered (.action a) answer) := by
  cases answer with
  | ok v =>
    by_cases unwritable : Unwritable v a
    · obtain ⟨message, cls, crashed⟩ := exists_answered_of_unwritable unwritable
      rw [crashed]
      exact .unwritable v unwritable message cls
    · obtain ⟨j, shown⟩ := exists_answered_of_shown unwritable
      rw [shown]
      exact .shown v unwritable j
  | error f =>
    rw [answered_of_raised a (ordinary f rfl)]
    cases prescribed : Prescription.ofRaised f a with
    | ok p => exact .prescribed f p prescribed
    | error g =>
      have failed : servedOr a (.error g) =
          ⟨(Served.failed g).reply, [.action a], [], (Served.failed g).crash?⟩ := by
        simp [servedOr, Served.after]
      rw [failed]
      exact .unsaid f g prescribed

namespace Settled

/-- **What crashes** is a value that cannot be shown, or the failure of saying what an error is. -/
theorem crash_iff (settled : Settled a answer served) : served.crash?.isSome = true ↔
    (∃ v, answer = .ok v ∧ Unwritable v a) ∨ ∃ g, Unsaid a answer g ∧ g.IsReported := by
  cases settled with
  | shown v shown j =>
    refine iff_of_false Bool.false_ne_true ?_
    rintro (⟨v', same, unwritable⟩ | ⟨g, unsaid, -⟩)
    · cases same
      exact shown unwritable
    · exact not_unsaid_of_returned g unsaid
  | unwritable v unwritable => exact iff_of_true rfl (.inl ⟨v, rfl, unwritable⟩)
  | prescribed f p prescribed =>
    refine iff_of_false Bool.false_ne_true ?_
    rintro (⟨v, returned, -⟩ | ⟨g, unsaid, -⟩)
    · cases returned
    · exact not_unsaid_of_prescribed prescribed g unsaid
  | unsaid f g failed =>
    have unsaid : Unsaid a (.error f) g := ⟨f, rfl, failed⟩
    refine Served.crash?_failed_isSome_iff.trans ⟨fun reported => .inr ⟨g, unsaid, reported⟩, ?_⟩
    rintro (⟨v, returned, -⟩ | ⟨g', unsaid', reported⟩)
    · cases returned
    · rwa [unsaid.unique unsaid'] at reported

/-- A crash is answered with 500, and in the words of the application if it could be said. -/
theorem reply_of_crash (settled : Settled a answer served) {c : Crash}
    (crashed : served.crash? = some c) :
    (∃ description, served.reply = .ok (Reply.described 500 description)) ∧
      (c.message?.isSome = true → served.reply = .ok Reply.internalError) := by
  cases settled with
  | shown | prescribed => cases crashed
  | unwritable => exact ⟨⟨_, rfl⟩, fun _ => rfl⟩
  | unsaid => exact Served.reply_of_crash crashed

/-- An error that fails to say what it is is answered as this failure is. -/
theorem eq_of_unsaid (settled : Settled a answer served) {g : Failure}
    (unsaid : Unsaid a answer g) :
    served = ⟨(Served.failed g).reply, [.action a], [], (Served.failed g).crash?⟩ := by
  cases settled with
  | shown | unwritable => exact absurd unsaid (not_unsaid_of_returned g)
  | prescribed f p prescribed => exact absurd unsaid (not_unsaid_of_prescribed prescribed g)
  | unsaid f g' failed => rw [Unsaid.unique ⟨f, rfl, failed⟩ unsaid]

/-- **In all other cases** the operation decides on the status. -/
theorem exists_reply_of_fine (settled : Settled a answer served) (fine : served.crash? = none)
    (said : ∀ g, ¬ Unsaid a answer g) :
    ∃ status j, served.reply = .ok (Reply.json status (Json.text j)) ∧
      (∀ v, answer = .ok v → status = a.doneStatus) ∧
      ∀ f, answer = .error f → status ∈ a.failureStatuses := by
  cases settled with
  | shown v shown j =>
    refine ⟨a.doneStatus, j, rfl, fun _ _ => rfl, fun f raised => ?_⟩
    cases raised
  | unwritable => cases fine
  | prescribed f p prescribed =>
    refine ⟨_, _, rfl, fun v returned => ?_, fun f' _ => ?_⟩
    · cases returned
    · exact (Prescription.forFailure_ofRaised prescribed).status
  | unsaid f g failed => exact absurd ⟨f, rfl, failed⟩ (said g)

end Settled

/-- **When a request for an action crashes.**  It does just when the broker returned a value that
cannot be shown, or raised an error that the action does not know and that fails to say what it is,
with a failure that is reported.  It is then answered with 500, in the first case like a fault of
the application, although the action was carried out and the broker keeps what it did.

An error that fails to say what it is may also fail with a condition, or with what cannot be caught,
and then this is what is answered.  In all other cases the operation decides: a value is answered
with the status for what was carried out, and an error that can be caught with one of the statuses
for what failed.  The limit on nested calls, which a value of very many levels exceeds, is set
aside. -/
theorem serve_crash_iff {σ : Type} (broker : Broker σ) (r : Request) (a : Action)
    (delivered : r.Delivers a) (s : σ)
    (ordinary : ∀ f, (broker.answer (.action a) s).1 = .error f → f.isOrdinary = true) :
    let answer := (broker.answer (.action a) s).1
    let served := (serve broker r s).1
    (serve broker r s).2 = (broker.answer (.action a) s).2 ∧
      (served.crash?.isSome = true ↔
        (∃ v, answer = .ok v ∧ Unwritable v a) ∨ ∃ g, Unsaid a answer g ∧ g.IsReported) ∧
      (∀ c, served.crash? = some c →
        (∃ description, served.reply = .ok (Reply.described 500 description)) ∧
          (c.message?.isSome = true → served.reply = .ok Reply.internalError)) ∧
      (∀ g, Unsaid a answer g →
        served = ⟨(Served.failed g).reply, [.action a], [], (Served.failed g).crash?⟩) ∧
      (served.crash? = none → (∀ g, ¬ Unsaid a answer g) →
        ∃ status j, served.reply = .ok (Reply.json status (Json.text j)) ∧
          (∀ v, answer = .ok v → status = a.doneStatus) ∧
          ∀ f, answer = .error f → status ∈ a.failureStatuses) := by
  intro answer served
  have carried := serve_action_of_delivers broker delivered s
  have settled : served = answered (.action a) answer := congrArg Prod.fst carried
  have ways : Settled a answer served := settled ▸ settled_answered ordinary
  exact ⟨congrArg Prod.snd carried, ways.crash_iff, fun _ => ways.reply_of_crash,
    fun _ => ways.eq_of_unsaid, ways.exists_reply_of_fine⟩

/-- An instance is created by a broker that returns an empty set.  It has no document, but it
counts as a missing address, and the answer is a success. -/
theorem serve_crash_iff_falsy :
    let v : Value := .set []
    let script : Script := ⟨[], [.ok v], [], [], []⟩
    let r : Request := ⟨"PUT", "/v2/service_instances/db", []⟩
    let served := (serve Script.broker r script).1
    r.Delivers (.provision "db") ∧
      (∀ f, (Script.broker.answer (.action (.provision "db")) script).1 = .error f →
        f.isOrdinary = true) ∧
      ¬ v.HasDocument ∧ served.crash? = none ∧
      ∃ j, served.reply = .ok (Reply.json 201 (Json.text j)) := by
  intro v script r served
  have delivered : r.Delivers (.provision "db") :=
    Request.delivers_iff.mpr ⟨by decide, by decide +kernel, by decide⟩
  have ordinary : ∀ f, (Script.broker.answer (.action (.provision "db")) script).1 = .error f →
      f.isOrdinary = true := nofun
  obtain ⟨-, crashes, -, -, answers⟩ :=
    serve_crash_iff Script.broker r (.provision "db") delivered script ordinary
  have said : ∀ g, ¬ Unsaid (.provision "db")
      (Script.broker.answer (.action (.provision "db")) script).1 g :=
    not_unsaid_of_returned
  have fine : served.crash? = none := by
    refine Option.not_isSome_iff_eq_none.mp fun crashed => ?_
    rcases crashes.mp crashed with ⟨v', returned, unwritable⟩ | ⟨g, unsaid, -⟩
    · cases returned
      rcases unwritable with ⟨c, unclear⟩ | ⟨truthy, -⟩
      · cases unclear
      · cases truthy
    · exact said g unsaid
  obtain ⟨status, j, replied, done, -⟩ := answers fine said
  cases done v rfl
  have none : ¬ Value.HasDocument (.set []) := nofun
  exact ⟨delivered, ordinary, none, fine, j, replied⟩

/-- **A crash in the place of a success.**  A broker creates a binding and hands out a set as
credentials.  The request for it is answered like a fault of the application. -/
theorem exists_crash_of_set :
    let script : Script := ⟨[], [], [], [.ok (.set [.int 1])], []⟩
    let r : Request := ⟨"PUT", "/v2/service_instances/db/service_bindings/app", []⟩
    let served := (serve Script.broker r script).1
    r.Delivers (.bind "db" "app") ∧ served.reply = .ok Reply.internalError ∧
      Reply.internalError.status = 500 ∧
      served.crash? = some ⟨some "Object of type set is not JSON serializable", "TypeError"⟩ := by
  intro script r served
  have delivered : r.Delivers (.bind "db" "app") :=
    Request.delivers_iff.mpr ⟨by decide, by decide +kernel, by decide⟩
  have settled : served = answered (.action (.bind "db" "app")) (.ok (.set [.int 1])) :=
    congrArg Prod.fst (serve_action_of_delivers Script.broker delivered script)
  rw [settled]
  exact ⟨delivered, rfl, rfl, by decide +kernel⟩

end Http
end OpenBroker
