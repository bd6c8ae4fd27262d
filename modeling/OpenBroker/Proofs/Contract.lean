import OpenBroker.Proofs.Delivery
import OpenBroker.Proofs.Run

/-! # The contract of the instance and binding endpoints

What a request for an action is answered with is a matter of three questions about the
table before it: is the instance live, is the binding there, and is there room.
`Memory.prescribed` has the answers and the log lines for all cases, word by word.

On the way from the table to the client an action goes through four hands: the table
refuses it with a sentinel, the failure is recognised as an outcome of its operation, the
outcome has an answer, and the answer is written.  Each has a lemma, and they meet in
`answered_perform`.
-/
namespace OpenBroker

/-! ## From the sentinel to the answer -/

namespace Failure

/-- The failure of a sentinel belongs to what the sentinel belongs to. -/
@[simp] theorem isA_ofSentinel (e t : Sentinel) : (ofSentinel e).isA t = e.isA t := by
  cases e <;> cases t <;> decide

@[simp] theorem isOrdinary_ofSentinel (e : Sentinel) : (ofSentinel e).isOrdinary = true := by
  cases e <;> decide

/-- An error without arguments can say what it is, in whatever way. -/
theorem exists_message_of_nil (cls : ErrorClass) : ∃ m, (raised cls []).message = .ok m := by
  -- there is no argument left, or the default message of a sentinel
  have kept : keptArguments cls [] = [] ∨ ∃ t, keptArguments cls [] = [.text t] := by
    unfold keptArguments
    split
    · exact .inr ⟨_, rfl⟩
    · exact .inl rfl
  unfold message
  rcases kept with kept | ⟨t, kept⟩
  all_goals
    simp only [kept]
    repeat' split
    all_goals exact ⟨_, rfl⟩

end Failure

namespace Outcome

/-- A sentinel is captured as the outcome under which its action lists it. -/
theorem capture_ofSentinel {a : Action} {e t : Sentinel} {o : Outcome}
    (listed : (recognised a).find? (fun r => e.isA r.1) = some (t, o)) :
    capture a (.error (.ofSentinel e)) = .ok o := by
  simp [capture, ofFailure, listed]

/-- A sentinel always has an outcome, also where it is not recognised.  So if there is none, there is
a complaint about a value. -/
theorem exists_complaint_of_capture {a : Action} {answer : Except Sentinel Value} {g : Failure}
    (failed : capture a (answer.mapError Failure.ofSentinel) = .error g) :
    ∃ c, g = .ofComplaint c := by
  cases answer with
  | ok v =>
    have complained : (ofValue a v).mapError Failure.ofComplaint = .error g := failed
    cases outcome : ofValue a v with
    | ok o =>
      rw [outcome] at complained
      cases complained
    | error c =>
      rw [outcome] at complained
      exact ⟨c, (Except.error.inj complained).symm⟩
  | error e =>
    have unknown : capture a (.error (.ofSentinel e)) = .error g := failed
    rw [capture, if_pos (Failure.isOrdinary_ofSentinel e), ofFailure] at unknown
    split at unknown
    · cases unknown
    · obtain ⟨m, said⟩ := Failure.exists_message_of_nil (.sentinel e)
      rw [Failure.ofSentinel, said] at unknown
      cases unknown

end Outcome

namespace Http

/-- **An outcome is answered** with the status and the line that its operation has for it,
and with the text of its body. -/
theorem settle_of_capture {a : Action} {answer : Except Failure Value} {o : Outcome}
    {w : WireAnswer} {body : Text} (captured : Outcome.capture a answer = .ok o)
    (mapped : WireAnswer.of a.operation o = some w) (written : w.body.jsonText = .ok body) :
    settle a answer = ⟨.ok (Reply.json w.status body), [], w.logLine.toList, none⟩ := by
  unfold settle
  rw [captured]
  dsimp only
  rw [mapped]
  simp [Served.value, written, Served.only, Served.after]

/-- Whatever the broker, a request that is delivered to an action asks it for this action. -/
theorem serve_action_of_delivers {σ : Type} (broker : Broker σ) {r : Request} {a : Action}
    (delivered : r.Delivers a) (s : σ) :
    serve broker r s =
      (answered (.action a) (broker.answer (.action a) s).1, (broker.answer (.action a) s).2) := by
  simp [serve, Request.task_eq_action_iff.mpr delivered, Served.asAsked,
    Request.isForHead_of_delivers delivered]

end Http

/-! ## What is prescribed -/

/-- **Prescription**: the status and the document of an answer, and the line that is logged
with it. -/
structure Prescription where
  status : Nat
  document : Json
  line? : Option Text

/-- The answer to an action as it is prescribed, after one call of the broker. -/
def Prescription.served (p : Prescription) (a : Action) : Http.Served :=
  ⟨.ok (.json p.status (Json.text p.document)), [.action a], p.line?.toList, none⟩

namespace Memory

open Http

/-- **The contract**: what is prescribed for an action on a table, with the password that a
new binding gets. -/
def prescribed (m : Memory) (password : Text) (t : Table) : Action → Prescription
  | .provision i =>
    if t.Live i then
      ⟨409, .object [], some ("Provisioning error: instance " ++ i ++ " already exists")⟩
    else if m.limit ≠ 0 ∧ m.limit ≤ t.instanceIds.length then
      ⟨500, .object [("description", .string "instance limit for this service has been reached")],
        some "Provisioning error: instance limit for this service has been reached"⟩
    else
      ⟨201, .object [("dashboard_url", .string
        (if m.dashboardBase = [] then [] else m.dashboardBase ++ "/instances/" ++ i))], none⟩
  | .deprovision i =>
    if t.Live i then ⟨200, .object [], none⟩
    else ⟨410, .object [], some ("Deprovisioning error: instance " ++ i ++ " does not exist")⟩
  | .bind i b =>
    if ¬ t.Live i then
      ⟨404, .object [("description", .string "instance does not exist")],
        some ("Binding error: instance " ++ i ++ " does not exist")⟩
    else if t.Bound i b then
      ⟨409, .object [("description", .string "binding already exists")],
        some "Binding error: binding already exists"⟩
    else
      ⟨201, .object [("credentials", .object [("uri", .string ("memory://" ++ i)),
        ("username", .string b), ("password", .string password)])], none⟩
  | .unbind i b =>
    if ¬ t.Live i then
      ⟨404, .object [], some ("Unbinding error: instance " ++ i ++ " does not exist")⟩
    else if ¬ t.Bound i b then
      ⟨410, .object [], some ("Unbinding error: binding " ++ b ++ " does not exist")⟩
    else ⟨200, .object [], none⟩

variable {m : Memory} {passwords : Nat → Text} {s : State}

/-- **From the outcome to the answer.** -/
theorem answered_eq_served {a : Action} {answer : Except Failure Value} {o : Outcome}
    {w : WireAnswer} {p : Prescription} (captured : Outcome.capture a answer = .ok o)
    (mapped : WireAnswer.of a.operation o = some w) (status : w.status = p.status)
    (line : w.logLine = p.line?) (document : w.body.jsonText = .ok (Json.text p.document)) :
    answered (.action a) answer = p.served a := by
  rw [answered, settle_of_capture captured mapped document]
  simp [Served.after, Prescription.served, status, line]

theorem capture_dashboard (i d : Text) :
    Outcome.capture (.provision i) (.ok (.text d)) = .ok (.provisioned (.text d)) := by
  cases d <;> rfl

theorem dashboard_eq (m : Memory) (i : Text) :
    m.dashboard i =
      (if m.dashboardBase = [] then [] else m.dashboardBase ++ "/instances/" ++ i : Text) := by
  simp [dashboard]

/-- **What the broker answers is what is prescribed.** -/
theorem answered_perform (m : Memory) (passwords : Nat → Text) (a : Action) (s : State) :
    answered (.action a) ((m.perform passwords a s).1.mapError Failure.ofSentinel) =
      (m.prescribed (passwords s.drawn) s.table a).served a := by
  rw [perform_answer]
  have effect := effect_after m (passwords s.drawn) a s.table
  generalize m.after (passwords s.drawn) a s.table = result at effect ⊢
  cases effect with
  | occupied live =>
    rw [prescribed, if_pos live]
    exact answered_eq_served (Outcome.capture_ofSentinel rfl) rfl rfl rfl rfl
  | noRoom dead full =>
    rw [prescribed, if_neg dead, if_pos (Table.isFull_iff.mp full)]
    exact answered_eq_served (Outcome.capture_ofSentinel rfl) rfl rfl rfl rfl
  | @provisioned i dead room =>
    rw [prescribed, if_neg dead, if_neg (Table.notFull_iff.mp room), ← dashboard_eq]
    exact answered_eq_served (capture_dashboard i _) rfl rfl rfl rfl
  | gone dead =>
    rw [prescribed, if_neg dead]
    exact answered_eq_served (Outcome.capture_ofSentinel rfl) rfl rfl rfl rfl
  | deprovisioned live =>
    rw [prescribed, if_pos live]
    exact answered_eq_served rfl rfl rfl rfl rfl
  | bindNowhere dead =>
    rw [prescribed, if_pos dead]
    exact answered_eq_served (Outcome.capture_ofSentinel rfl) rfl rfl rfl rfl
  | alreadyBound bound =>
    have live := Table.live_of_bound bound
    rw [prescribed, if_neg (not_not_intro live), if_pos bound]
    exact answered_eq_served (Outcome.capture_ofSentinel rfl) rfl rfl rfl rfl
  | @bound i b bs found unbound =>
    have live := Table.live_of_find? found
    have notBound := mt (Table.bound_iff_of_find? found).mp unbound
    rw [prescribed, if_neg (not_not_intro live), if_neg notBound]
    exact answered_eq_served rfl rfl rfl rfl rfl
  | unbindNowhere dead =>
    rw [prescribed, if_pos dead]
    exact answered_eq_served (Outcome.capture_ofSentinel rfl) rfl rfl rfl rfl
  | notBound live unbound =>
    rw [prescribed, if_neg (not_not_intro live), if_pos unbound]
    exact answered_eq_served (Outcome.capture_ofSentinel rfl) rfl rfl rfl rfl
  | @unbound i b bs found bound =>
    have live := Table.live_of_find? found
    have isBound := (Table.bound_iff_of_find? found).mpr bound
    rw [prescribed, if_neg (not_not_intro live), if_neg (not_not_intro isBound)]
    exact answered_eq_served rfl rfl rfl rfl rfl

/-- What is carried out is answered as a success. -/
theorem prescribed_status {password : Text} {a : Action} {t t' : Table}
    (h : m.after password a t = .ok t') :
    (m.prescribed password t a).status = 200 ∨ (m.prescribed password t a).status = 201 := by
  have effect := effect_after m password a t
  rw [h] at effect
  cases effect with
  | provisioned dead room =>
    rw [prescribed, if_neg dead, if_neg (Table.notFull_iff.mp room)]
    exact .inr rfl
  | deprovisioned live =>
    rw [prescribed, if_pos live]
    exact .inl rfl
  | @bound i b bs found unbound =>
    have live := Table.live_of_find? found
    have notBound := mt (Table.bound_iff_of_find? found).mp unbound
    rw [prescribed, if_neg (not_not_intro live), if_neg notBound]
    exact .inr rfl
  | unbound found bound =>
    have live := Table.live_of_find? found
    have isBound := (Table.bound_iff_of_find? found).mpr bound
    rw [prescribed, if_neg (not_not_intro live), if_neg (not_not_intro isBound)]
    exact .inl rfl

theorem serve_of_delivers {r : Request} {a : Action} (h : r.Delivers a) :
    serve (m.broker passwords) r s =
      (answered (.action a) ((m.perform passwords a s).1.mapError Failure.ofSentinel),
        (m.perform passwords a s).2) :=
  serve_action_of_delivers (m.broker passwords) h s

/-- **The contract is kept.**  In any state, a request that is delivered to an action is
answered just as it is prescribed for the table before it: with the status, the document and
the log line of the case at hand, after one call of the broker for that action. -/
theorem serve_eq_prescribed (m : Memory) (passwords : Nat → Text) (r : Request) (a : Action)
    (delivered : r.Delivers a) (s : State) :
    (serve (m.broker passwords) r s).1 =
      let p := m.prescribed (passwords s.drawn) s.table a
      ⟨.ok (Reply.json p.status (Json.text p.document)), [.action a], p.line?.toList, none⟩ := by
  rw [serve_of_delivers delivered]
  exact answered_perform m passwords a s

/-- A service with a limit of one is asked twice for the same instance, with a method in
lower case and a slash too many.  The second time it is full, but what it complains about is
that the instance is there. -/
theorem serve_eq_prescribed_again :
    let m : Memory := ⟨.null, 1, []⟩
    let r : Request := ⟨"put", "//v2/service_instances/db", []⟩
    let s := (Http.run (m.broker fun _ => []) [r] fresh).2
    r.Delivers (.provision "db") ∧ s.table.isFull m.limit = true ∧
      (serve (m.broker fun _ => []) r s).1 =
        ⟨.ok (Reply.json 409 "\x7b\x7d"), [.action (.provision "db")],
          ["Provisioning error: instance db already exists"], none⟩ := by
  intro m r s
  have delivered : r.Delivers (.provision "db") :=
    Request.delivers_iff.mpr ⟨by decide, by decide +kernel, by decide⟩
  have live : s.table.Live "db" := by decide +kernel
  refine ⟨delivered, by decide +kernel, ?_⟩
  rw [serve_eq_prescribed m _ r _ delivered s, prescribed, if_pos live]
  rfl

end Memory
end OpenBroker
