import OpenBroker.Http.Service
import OpenBroker.Proofs.Except

/-! # What a failure is answered with

A failure that is no outcome goes to the handlers of the application, and there are five ways in
which it can end (`Failed`).  A failure that cannot be caught passes on, and leaves the request
without a reply.  An HTTP condition is answered as such.  Everything else is reported with its
message; and since saying what a failure is may fail again, there are two ways more, one for
a second failure that can be caught and one for a second failure that cannot.

All that is said about such replies elsewhere is read off these five ways (`failed_cases`).
-/
namespace OpenBroker

/-! ## Messages that can be said -/

namespace Failure

/-- A plain error with one text has it for a message, unless a sentinel takes it. -/
theorem message_of_text {cls : ErrorClass} (plain : cls.voice = .plain)
    (whole : cls.isTakenBySentinel = false) (t : Text) :
    (raised cls [.text t]).message = .ok t := by
  simp [message, plain, keptArguments, whole, plainMessage, Value.plain, showing, mapError_ok]

/-- A complaint can always be caught. -/
theorem isOrdinary_ofComplaint (c : Complaint) : (ofComplaint c).isOrdinary = true := by
  have names : (BasicClass.standard (.named "Exception")).names.contains "Exception" = true := by
    decide +kernel
  simp only [isOrdinary, ofComplaint, ErrorClass.isOrdinary, ErrorClass.strands, List.any_cons,
    names, Bool.true_or, Bool.or_true]

/-- An error about a character before the first of a text cannot point at it. -/
theorem message_of_before (set t reason : Text) {start : Int} (before : start < 0) :
    (raised (.named "UnicodeEncodeError")
      [.text set, .text t, .int start, .int (start + 1), .text reason]).message =
        .error misplaced := by
  have facts : (ErrorClass.named "UnicodeEncodeError").voice = .encoding ∧
      (ErrorClass.named "UnicodeEncodeError").taker = .encoding ∧
      (ErrorClass.named "UnicodeEncodeError").isTakenBySentinel = false := by decide +kernel
  obtain ⟨voice, taker, whole⟩ := facts
  simp [message, voice, taker, keptArguments, whole, characterMessage, pointedMessage, before,
    Value.int?]

/-- A condition can always be caught. -/
theorem isOrdinary_of_condition {f : Failure} {h : HttpCondition} (is : f.condition? = some h) :
    f.isOrdinary = true := by
  cases f with
  | raised => cases is
  | http => rfl
  | own cls said condition? =>
    have here : condition? = some h := is
    rw [isOrdinary, here]
    rfl

/-- **A failure that is a reply already**, which no handler is asked about. -/
def IsReply (f : Failure) : Prop :=
  ∃ code? name description? reply, f.condition? = some (.ready code? name description? reply)

/-- **A failure that is reported** to the log of the application: it can be caught and is no
condition, and if saying what it is fails, that failure can be caught too. -/
structure IsReported (f : Failure) : Prop where
  ordinary : f.isOrdinary = true
  other : f.condition? = none
  caught : ∀ g, f.message = .error g → g.isOrdinary = true

theorem not_isReply_ofComplaint (c : Complaint) : ¬ (ofComplaint c).IsReply := nofun

theorem not_isReply_foreign (op : Operation) (display : Except Complaint Text) :
    ¬ (WireAnswer.foreign op display).IsReply := by
  cases display <;> exact nofun

end Failure

namespace Http
namespace Served

variable {f g : Failure} {m : Text} {v : Value} {c : Complaint}

/-! ## The ways to end -/

/-- A condition is answered with a reply, and that is all. -/
theorem exists_only_of_condition (h : HttpCondition) : ∃ reply, condition h = only reply := by
  cases h with
  | ready => exact ⟨_, rfl⟩
  | handled cls => cases cls <;> exact ⟨_, rfl⟩

/-- A request that is reported itself is answered with a description of its own. -/
theorem exists_reply_abandoned (className : Text) :
    ∃ description, (abandoned className).reply = .ok (Reply.described 500 description) :=
  ⟨_, rfl⟩

/-- **The ways in which a failure ends**, with what is served for it. -/
inductive Failed (f : Failure) : Served → Prop
  | wild (wild : f.isOrdinary = false) : Failed f (passed f)
  | condition (ordinary : f.isOrdinary = true) (h : HttpCondition) (is : f.condition? = some h) :
    Failed f (condition h)
  | said (ordinary : f.isOrdinary = true) (other : f.condition? = none) (m : Text)
    (said : f.message = .ok m) :
    Failed f ⟨.ok Reply.internalError, [], [], some ⟨some m, f.className⟩⟩
  | unsaid (ordinary : f.isOrdinary = true) (other : f.condition? = none) (g : Failure)
    (unsaid : f.message = .error g) (caught : g.isOrdinary = true) :
    Failed f (abandoned g.className)
  | lost (ordinary : f.isOrdinary = true) (other : f.condition? = none) (g : Failure)
    (unsaid : f.message = .error g) (wild : g.isOrdinary = false) : Failed f (passed g)

/-- A failure ends in one of these ways. -/
theorem failed_cases (f : Failure) : Failed f (failed f) := by
  unfold failed
  by_cases ordinary : f.isOrdinary = true
  · rw [if_pos ordinary]
    cases is : f.condition? with
    | some h => exact .condition ordinary h is
    | none =>
      dsimp only
      unfold crashed
      cases message : f.message with
      | ok m => exact .said ordinary is m message
      | error g =>
        by_cases caught : g.isOrdinary = true
        · simp only [if_pos caught]
          exact .unsaid ordinary is g message caught
        · simp only [if_neg caught]
          exact .lost ordinary is g message (Bool.eq_false_iff.mpr caught)
  · rw [if_neg ordinary]
    exact .wild (Bool.eq_false_iff.mpr ordinary)

/-- A failure is answered without a call, and without a line. -/
theorem calls_and_lines_failed (f : Failure) : (failed f).calls = [] ∧ (failed f).lines = [] := by
  have ways := failed_cases f
  generalize failed f = served at ways ⊢
  cases ways with
  | condition _ h =>
    obtain ⟨reply, only⟩ := exists_only_of_condition h
    rw [only]
    exact ⟨rfl, rfl⟩
  | wild | said | unsaid | lost => exact ⟨rfl, rfl⟩

@[simp] theorem calls_failed (f : Failure) : (failed f).calls = [] := (calls_and_lines_failed f).1

@[simp] theorem lines_failed (f : Failure) : (failed f).lines = [] := (calls_and_lines_failed f).2

/-- A failure with a message that can be said is reported with it. -/
theorem failed_of_message (ordinary : f.isOrdinary = true) (other : f.condition? = none)
    (said : f.message = .ok m) :
    failed f = ⟨.ok Reply.internalError, [], [], some ⟨some m, f.className⟩⟩ := by
  simp only [failed, if_pos ordinary, other, crashed, said]

/-- **What has crashed**: a reported failure, and no other. -/
theorem crash?_failed_isSome_iff : (failed f).crash?.isSome = true ↔ f.IsReported := by
  have ways := failed_cases f
  generalize failed f = served at ways ⊢
  cases ways with
  | wild wild =>
    refine iff_of_false nofun fun reported => ?_
    rw [reported.ordinary] at wild
    cases wild
  | condition _ h is =>
    obtain ⟨reply, only⟩ := exists_only_of_condition h
    rw [only]
    refine iff_of_false nofun fun reported => ?_
    rw [reported.other] at is
    cases is
  | said ordinary other m said =>
    exact iff_of_true rfl ⟨ordinary, other, fun _ unsaid => nomatch said.symm.trans unsaid⟩
  | unsaid ordinary other g unsaid caught =>
    refine iff_of_true rfl ⟨ordinary, other, fun g' unsaid' => ?_⟩
    cases unsaid.symm.trans unsaid'
    exact caught
  | lost _ _ g unsaid wild =>
    refine iff_of_false nofun fun reported => ?_
    rw [reported.caught g unsaid] at wild
    cases wild

/-- A crash is answered with 500, and always in the same words if the failure could be said. -/
theorem reply_of_crash {c : Crash} (crashed : (failed f).crash? = some c) :
    (∃ description, (failed f).reply = .ok (Reply.described 500 description)) ∧
      (c.message?.isSome = true → (failed f).reply = .ok Reply.internalError) := by
  have ways := failed_cases f
  generalize failed f = served at ways crashed ⊢
  cases ways with
  | wild | lost => cases crashed
  | condition _ h =>
    obtain ⟨reply, only⟩ := exists_only_of_condition h
    rw [only] at crashed
    cases crashed
  | said => exact ⟨⟨_, rfl⟩, fun _ => rfl⟩
  | unsaid _ _ g =>
    cases crashed
    exact ⟨exists_reply_abandoned g.className, nofun⟩

/-! ## Values -/

/-- **A complaint** is reported. -/
theorem failed_ofComplaint (c : Complaint) : failed (.ofComplaint c) =
    ⟨.ok Reply.internalError, [], [], some ⟨some c.message, c.className⟩⟩ :=
  failed_of_message (Failure.isOrdinary_ofComplaint c) rfl rfl

/-- **A value without a document** is reported with what is wrong with it. -/
theorem value_of_error (status : Nat) (unwritten : v.document = .error c) :
    value status v = ⟨.ok Reply.internalError, [], [], some ⟨some c.message, c.className⟩⟩ := by
  simp only [value, Value.jsonText, unwritten, Except.map, failed_ofComplaint]

theorem value_of_ok (status : Nat) {j : Json} (written : v.document = .ok j) :
    value status v = only (Reply.json status (Json.text j)) := by
  simp only [value, Value.jsonText, written, Except.map]

@[simp] theorem calls_value (status : Nat) (v : Value) : (value status v).calls = [] := by
  cases document : v.document with
  | ok j => rw [value_of_ok status document, only]
  | error c => rw [value_of_error status document]

theorem exists_reply_value (status : Nat) (v : Value) :
    ∃ reply, (value status v).reply = .ok reply := by
  cases document : v.document with
  | ok j => exact ⟨_, congrArg Served.reply (value_of_ok status document)⟩
  | error c => exact ⟨_, congrArg Served.reply (value_of_error status document)⟩

end Served
end Http
end OpenBroker
