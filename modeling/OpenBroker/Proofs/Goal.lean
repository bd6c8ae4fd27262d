import OpenBroker.Proofs.Contract

/-! # What an action is for

Every action has a goal: that an instance is there, or is not, or that a binding is.  A
successful action has reached its goal (`goal_of_after`), and where the goal is reached
already the action is refused (`status_of_goal`).  So the status of an answer tells these
cases apart: 201 or 200 for what was carried out, and 409 or 410 for what had nothing to do.

The goal of a removed binding includes that its instance is there, for without the instance
the removal is refused for another reason.
-/
namespace OpenBroker

namespace Action

/-- The status of an action that was carried out. -/
def doneStatus : Action → Nat
  | provision _ | bind _ _ => 201
  | deprovision _ | unbind _ _ => 200

/-- The status of an action whose goal is reached already. -/
def idleStatus : Action → Nat
  | provision _ | bind _ _ => 409
  | deprovision _ | unbind _ _ => 410

end Action

namespace Table

/-- **Goal** of an action, for the table after it. -/
def Goal (t : Table) : Action → Prop
  | .provision i => t.Live i ∧ t.boundIds i = []
  | .deprovision i => ¬ t.Live i
  | .bind i b => t.Bound i b
  | .unbind i b => t.Live i ∧ ¬ t.Bound i b

end Table

namespace Memory

open Table

variable {m : Memory} {password : Text} {a : Action} {t t' : Table}

/-- **A successful action has reached its goal.** -/
theorem goal_of_after (h : t.Distinct) (done : m.after password a t = .ok t') : t'.Goal a := by
  have effect := effect_after m password a t
  have live := live_next h m password a
  have bound := bound_next h m password a
  have bindings := boundIds_next h m password a
  rw [next_of_ok done] at live bound bindings
  rw [done] at effect
  cases effect with
  | @provisioned i dead room =>
    refine ⟨(live i).mpr (.inr ⟨rfl, room⟩), ?_⟩
    rw [bindings i]
    exact boundIds_of_not_live dead
  | @deprovisioned i was =>
    intro still
    exact ((live i).mp still).1 rfl
  | @bound i b bs found unbound =>
    exact (bound i b).mpr (.inr ⟨rfl, rfl, live_of_find? found⟩)
  | @unbound i b bs found was =>
    refine ⟨(live i).mpr (live_of_find? found), ?_⟩
    intro still
    exact ((bound i b).mp still).1 ⟨rfl, rfl⟩

/-- **The status** that is prescribed for an action on a table. -/
theorem prescribed_status_eq (m : Memory) (password : Text) (t : Table) (a : Action) :
    (m.prescribed password t a).status =
      match a with
      | .provision i => if t.Live i then 409 else if t.isFull m.limit = true then 500 else 201
      | .deprovision i => if t.Live i then 200 else 410
      | .bind i b => if ¬ t.Live i then 404 else if t.Bound i b then 409 else 201
      | .unbind i b => if ¬ t.Live i then 404 else if t.Bound i b then 200 else 410 := by
  cases a with
  | provision i =>
    by_cases live : t.Live i
    · rw [prescribed, if_pos live]
      simp only [if_pos live]
    · by_cases full : t.isFull m.limit = true
      · rw [prescribed, if_neg live, if_pos (isFull_iff.mp full)]
        simp only [if_neg live, if_pos full]
      · rw [prescribed, if_neg live, if_neg (mt isFull_iff.mpr full)]
        simp only [if_neg live, if_neg full]
  | deprovision i => by_cases live : t.Live i <;> simp [prescribed, live]
  | bind i b | unbind i b =>
    by_cases live : t.Live i
    · by_cases bound : t.Bound i b <;> simp [prescribed, live, bound]
    · simp [prescribed, live]

/-- What is carried out is answered with the status of a success. -/
theorem status_of_after (done : m.after password a t = .ok t') :
    (m.prescribed password t a).status = a.doneStatus := by
  have effect := effect_after m password a t
  rw [done] at effect
  rw [prescribed_status_eq]
  cases effect with
  | provisioned dead room => simp [dead, room, Action.doneStatus]
  | deprovisioned live => simp [live, Action.doneStatus]
  | bound found unbound =>
    have live := live_of_find? found
    have notBound := mt (bound_iff_of_find? found).mp unbound
    simp [live, notBound, Action.doneStatus]
  | unbound found bound =>
    have live := live_of_find? found
    have isBound := (bound_iff_of_find? found).mpr bound
    simp [live, isBound, Action.doneStatus]

/-- What is refused is answered as a failure. -/
theorem status_of_refused {e : Sentinel} (refused : m.after password a t = .error e) :
    (m.prescribed password t a).status ≠ 200 ∧ (m.prescribed password t a).status ≠ 201 := by
  have effect := effect_after m password a t
  rw [refused] at effect
  rw [prescribed_status_eq]
  cases effect with
  | occupied live => simp [live]
  | noRoom dead full => simp [dead, full]
  | gone dead => simp [dead]
  | bindNowhere dead => simp [dead]
  | alreadyBound bound => simp [live_of_bound bound, bound]
  | unbindNowhere dead => simp [dead]
  | notBound live unbound => simp [live, unbound]

/-- **Where the goal is reached already**, an action is answered with the status that says so. -/
theorem status_of_goal (m : Memory) (password : Text) (reached : t.Goal a) :
    (m.prescribed password t a).status = a.idleStatus := by
  rw [prescribed_status_eq]
  cases a with
  | provision i => simp [reached.1, Action.idleStatus]
  | deprovision i =>
    have dead : ¬ t.Live i := reached
    simp [dead, Action.idleStatus]
  | bind i b =>
    have bound : t.Bound i b := reached
    simp [live_of_bound bound, bound, Action.idleStatus]
  | unbind i b => simp [reached.1, reached.2, Action.idleStatus]

/-- **Where the goal is reached already**, there is nothing to do. -/
theorem refused_of_goal (m : Memory) (password : Text) (reached : t.Goal a) :
    ∃ e, m.after password a t = .error e := by
  cases result : m.after password a t with
  | error e => exact ⟨e, rfl⟩
  | ok t' =>
    have done := status_of_after result
    rw [status_of_goal m password reached] at done
    cases a <;> cases done

end Memory
end OpenBroker
