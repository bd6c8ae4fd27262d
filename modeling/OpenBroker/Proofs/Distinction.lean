import OpenBroker.Outcome

/-! # What an answer and its line tell apart

The answer to an outcome and the line about it say which outcome it was.  Of the outcomes of one
operation nearly every kind has a status of its own, and what an outcome carries stands in the body
or in the line, where it can be cancelled out of the words around it, whatever it contains.

Only two things are not told apart (`Outcome.Merged`).  Nothing of a binding that already exists is
shown, so all of these are answered alike.  And a reached limit is answered with the status of an
unexpected failure, so a failure with just that message looks the same.

All this is so for two ways to compare the values that a broker returns: by what they are, and by
what they mean.  It is enough that a comparison of values takes texts for what they are and looks
into mappings (`Compares`).

Lines about two operations differ from the first character on (`line_eq_iff`).
-/
namespace OpenBroker

theorem CodePoint.ofChar_inj {c d : Char} : ofChar c = ofChar d ↔ c = d := by
  rw [ofChar, ofChar, Fin.mk.injEq]
  exact Char.toNat_inj

/-- Different strings are different texts. -/
theorem Text.ofString_inj {s t : String} : ofString s = ofString t ↔ s = t := by
  refine ⟨fun same => String.toList_inj.mp ?_, congrArg ofString⟩
  exact (List.map_inj_right fun _ _ => CodePoint.ofChar_inj.mp).mp same

namespace Outcome

/-- **Merged**: different outcomes that are answered alike. -/
def Merged : Outcome → Outcome → Prop
  | bindingAlreadyExists _, bindingAlreadyExists _ => True
  | instanceLimitReached, unexpected m => m = WireAnswer.limitReached
  | unexpected m, instanceLimitReached => m = WireAnswer.limitReached
  | _, _ => False

/-- Outcomes that are alike up to a comparison of the values they carry. -/
def Alike (R : Value → Value → Prop) : Outcome → Outcome → Prop
  | provisioned v, provisioned v' => R v v'
  | bound v, bound v' => R v v'
  | o, o' => o = o'

theorem alike_eq_iff {o o' : Outcome} : Alike Eq o o' ↔ o = o' := by
  cases o <;> cases o' <;> simp [Alike]

theorem alike_same_iff {o o' : Outcome} :
    Alike (fun v v' => Value.same v v' = true) o o' ↔ same o o' = true := by
  cases o <;> cases o' <;>
    simp [Alike, same, name, field?, Value.same, Value.sameScalar, Text.ofString_inj]

end Outcome

namespace WireAnswer

variable {op op' : Operation} {o o' : Outcome} {w w' : WireAnswer} {reason reason' : Text}
  {R : Value → Value → Prop}

/-! ## Lines -/

/-- **A line** shows its operation and its reason. -/
theorem line_eq_iff : line op reason = line op' reason' ↔ op = op' ∧ reason = reason' := by
  have first (op : Operation) (rest : Text) :
      (label op ++ " error: " ++ rest).head? = (label op).head? := by
    cases op <;> rfl
  constructor
  · intro same
    have same := Option.some.inj same
    have heads : (label op).head? = (label op').head? := by
      rw [← first op reason, same, first op' reason']
    have operations : op = op' := by
      revert heads
      cases op <;> cases op' <;> decide
    subst operations
    exact ⟨rfl, List.append_cancel_left same⟩
  · rintro ⟨rfl, rfl⟩
    rfl

/-- What is logged about an outcome is a line of its operation. -/
theorem exists_line_of_mem_logLine (answered : of op o = some w) {l : Text} (h : l ∈ w.logLine) :
    ∃ reason, line op reason = some l := by
  cases op <;> cases o <;> cases answered <;> cases h <;> exact ⟨_, rfl⟩

/-! ## Answers of one operation -/

/-- **A comparison** of values that takes texts for what they are and looks into mappings. -/
structure Compares (R : Value → Value → Prop) : Prop where
  text : ∀ s t, R (.text s) (.text t) ↔ s = t
  empty : R (.mapping []) (.mapping [])
  entry : ∀ key v v', R (.mapping [(.text key, v)]) (.mapping [(.text key, v')]) ↔ R v v'

theorem compares_eq : Compares Eq := by
  constructor <;> simp

theorem compares_same : Compares fun v v' => Value.same v v' = true := by
  constructor <;> simp [Value.same, Value.allEntriesAmong, Value.sameScalar]

/-- Answers that are alike up to a comparison of their bodies. -/
def Alike (R : Value → Value → Prop) (w w' : WireAnswer) : Prop :=
  w.status = w'.status ∧ R w.body w'.body ∧ w.logLine = w'.logLine

/-- **Answers of one operation** are alike if the outcomes are, or are merged, and in no other
case. -/
theorem alike_iff (compares : Compares R) (left : of op o = some w) (right : of op o' = some w') :
    w.Alike R w' ↔ o.Alike R o' ∨ o.Merged o' := by
  have described {s t : Text} : R (described s) (described t) ↔ s = t :=
    (compares.entry _ _ _).trans (compares.text s t)
  have dashboard {v v' : Value} : R (.mapping [(.text "dashboard_url", v)])
      (.mapping [(.text "dashboard_url", v')]) ↔ R v v' := compares.entry _ _ _
  have bare : R empty empty := compares.empty
  cases op with
  | provision =>
    cases o <;> cases left <;> cases o' <;> cases right <;>
      simp [Alike, Outcome.Alike, Outcome.Merged, line_eq_iff, described, dashboard, bare, eq_comm]
  | deprovision =>
    cases o <;> cases left <;> cases o' <;> cases right <;>
      simp [Alike, Outcome.Alike, Outcome.Merged, line_eq_iff, described, bare]
  | bind =>
    cases o <;> cases left <;> cases o' <;> cases right <;>
      simp [Alike, Outcome.Alike, Outcome.Merged, line_eq_iff, described]
  | unbind =>
    cases o <;> cases left <;> cases o' <;> cases right <;>
      simp [Alike, Outcome.Alike, Outcome.Merged, line_eq_iff, described, bare]

theorem alike_eq_iff : w.Alike Eq w' ↔ w = w' := by
  cases w
  cases w'
  simp [Alike]

/-- **Equality of answers**: the same status, equal bodies and the same line. -/
def same (w w' : WireAnswer) : Bool :=
  w.status == w'.status && Value.same w.body w'.body && w.logLine == w'.logLine

theorem alike_same_iff :
    w.Alike (fun v v' => Value.same v v' = true) w' ↔ w.same w' = true := by
  simp [Alike, same, and_assoc]

/-- **What an answer and its line tell apart.**  Two outcomes of one operation have the same answer
just when they are the same or merged, and equal answers just when they are equal or merged.  Lines
about outcomes of different operations are different. -/
theorem of_tells_apart :
    (∀ op o o' w w', of op o = some w → of op o' = some w' →
      (w = w' ↔ o = o' ∨ o.Merged o') ∧
      (w.same w' = true ↔ o.same o' = true ∨ o.Merged o')) ∧
    ∀ op op' o o' w w', op ≠ op' → of op o = some w → of op' o' = some w' →
      ∀ l ∈ w.logLine, l ∉ w'.logLine := by
  constructor
  · intro op o o' w w' left right
    constructor
    · rw [← alike_eq_iff, ← Outcome.alike_eq_iff]
      exact alike_iff compares_eq left right
    · rw [← alike_same_iff, ← Outcome.alike_same_iff]
      exact alike_iff compares_same left right
  · intro op op' o o' w w' different left right l mem mem'
    obtain ⟨reason, about⟩ := exists_line_of_mem_logLine left mem
    obtain ⟨reason', about'⟩ := exists_line_of_mem_logLine right mem'
    exact different (line_eq_iff.mp (about.trans about'.symm)).1

/-- A failure with the words for an instance that already exists has the line of one, and another
answer; as an outcome of another operation it has another line. -/
theorem of_tells_apart_imitation :
    let imitated : Text := "instance db already exists"
    ∃ w w' v, of .provision (.instanceAlreadyExists "db") = some w ∧
      of .provision (.unexpected imitated) = some w' ∧ of .bind (.unexpected imitated) = some v ∧
      w.logLine = line .provision imitated ∧ w.logLine = w'.logLine ∧ w ≠ w' ∧
      w.same w' = false ∧ ∀ l ∈ w.logLine, l ∉ v.logLine := by
  intro imitated
  obtain ⟨apart, lines⟩ := of_tells_apart
  obtain ⟨identical, equal⟩ := apart .provision (.instanceAlreadyExists "db")
    (.unexpected imitated) _ _ rfl rfl
  refine ⟨_, _, _, rfl, rfl, rfl, rfl, rfl, ?_, ?_, ?_⟩
  · intro same
    rcases identical.mp same with other | merged
    · cases other
    · exact merged
  · refine Bool.eq_false_iff.mpr fun same => ?_
    rcases equal.mp same with other | merged
    · revert other
      decide
    · exact merged
  · exact lines .provision .bind (.instanceAlreadyExists "db") (.unexpected imitated) _ _
      (by decide) rfl rfl

end WireAnswer
end OpenBroker
