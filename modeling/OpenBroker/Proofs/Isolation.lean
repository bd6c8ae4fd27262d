import OpenBroker.Proofs.Contract
import OpenBroker.Proofs.Failing

/-! # What a request can touch

A request calls a broker at most once, and the broker's state afterwards is the one after that
call (`serve_calls`); this is so for every broker.  With a memory broker the call either
succeeds, and is then answered with 200 or 201, or changes nothing.  So a request that is
answered with anything else has no effect at all.

What a successful action changes is confined to its instance, and if it is about a binding,
to this binding (`confined_of_after`).  The other entries are compared as lists, so they keep
what they hold as well as their order.
-/
namespace OpenBroker

namespace Http

namespace Served

@[simp] theorem calls_asAsked (r : Request) (served : Served) :
    (served.asAsked r).calls = served.calls := by
  unfold asAsked
  split <;> rfl

theorem exists_reply_asAsked (r : Request) {served : Served} (h : ∃ reply, served.reply = .ok reply) :
    ∃ reply, (served.asAsked r).reply = .ok reply := by
  obtain ⟨reply, h⟩ := h
  unfold asAsked
  split
  · exact ⟨reply.bodiless, by rw [h]; rfl⟩
  · exact ⟨reply, h⟩

end Served

theorem settle_calls (a : Action) (answer : Except Failure Value) :
    (settle a answer).calls = [] := by
  unfold settle
  split
  · exact Served.calls_failed _
  · split
    · simp [Served.after]
    · exact Served.calls_failed _

/-- What is made of an answer counts the call that was answered, and no other. -/
theorem answered_calls (c : Call) (answer : Except Failure Value) :
    (answered c answer).calls = [c] := by
  cases c with
  | action a => simp [answered, Served.after, settle_calls]
  | catalog => cases answer <;> simp [answered, Served.after]

/-- What is served without the broker is a reply. -/
theorem Request.of_task_inr {r : Request} {served : Served} (h : r.task = .inr served) :
    served.calls = [] ∧ ∃ reply, served.reply = .ok reply := by
  unfold Request.task at h
  split at h
  · rename_i e _
    cases ht : e.task r.verb with
    | inl call => simp [ht] at h
    | inr reply =>
      rw [ht] at h
      cases h
      exact ⟨rfl, reply, rfl⟩
  · cases h
    unfold Served.redirected
    split
    · exact ⟨rfl, _, rfl⟩
    · exact ⟨rfl, _, rfl⟩
  · cases h
    exact ⟨rfl, _, rfl⟩
  · cases h
    exact ⟨rfl, _, rfl⟩

/-- **At most one call.**  A request is served without the broker, whose state stays, or with
one call, and then the state is the one after this call. -/
theorem serve_calls {σ : Type} (broker : Broker σ) (r : Request) (s : σ) :
    ((serve broker r s).1.calls = [] ∧ (serve broker r s).2 = s) ∨
      ∃ c, (serve broker r s).1.calls = [c] ∧ (serve broker r s).2 = (broker.answer c s).2 := by
  unfold serve
  cases h : r.task with
  | inl c => exact .inr ⟨c, by simp [answered_calls], rfl⟩
  | inr served => exact .inl ⟨by simp [(Request.of_task_inr h).1], rfl⟩

end Http

/-! ## The memory broker -/

namespace Memory

open Http

variable {m : Memory} {passwords : Nat → Text} {password : Text} {a : Action} {t t' : Table}

/-- **Confined**: all other instances are the same and in the same order, and for an action on
a binding so are all other bindings of its instance. -/
def Confined (t t' : Table) : Action → Prop
  | .provision i | .deprovision i => Keyed.others i t' = Keyed.others i t
  | .bind i b | .unbind i b =>
    Keyed.others i t' = Keyed.others i t ∧ t'.instanceIds = t.instanceIds ∧
      ∃ bs bs', Keyed.find? i t = some bs ∧ Keyed.find? i t' = some bs' ∧
        Keyed.others b bs' = Keyed.others b bs

theorem confined_of_after (h : m.after password a t = .ok t') : Confined t t' a := by
  have effect := effect_after m password a t
  rw [h] at effect
  cases effect with
  -- the new entry is at the end, and it is none of the others
  | provisioned => simp [Confined, Keyed.others]
  | deprovisioned => exact Keyed.others_erase _ t
  | bound found unbound =>
    refine ⟨Keyed.others_put .., Keyed.keys_put_of_mem (Table.live_of_find? found), _, _, found,
      Keyed.find?_put_self .., ?_⟩
    simp [Keyed.others]
  | unbound found bound =>
    exact ⟨Keyed.others_put .., Keyed.keys_put_of_mem (Table.live_of_find? found), _, _, found,
      Keyed.find?_put_self .., Keyed.others_erase ..⟩

/-- A request for an action has a reply.  Either it leaves the state as it was, or it is
answered as a success and its effect is confined. -/
theorem serve_action {r : Request} (h : r.Delivers a) (s : State) :
    ∃ reply, (serve (m.broker passwords) r s).1.reply = .ok reply ∧
      ((serve (m.broker passwords) r s).2 = s ∨
        (reply.status = 200 ∨ reply.status = 201) ∧
          Confined s.table (serve (m.broker passwords) r s).2.table a) := by
  rw [serve_of_delivers h, answered_perform]
  refine ⟨_, rfl, ?_⟩
  rcases m.perform_cases passwords a s with ⟨t, done, hp⟩ | ⟨e, -, hp⟩
  · rw [hp]
    exact .inr ⟨prescribed_status done, confined_of_after done⟩
  · rw [hp]
    exact .inl rfl

/-- Any other request has a reply and leaves the state as it was. -/
theorem serve_of_not_delivers {r : Request} (h : ∀ a, ¬ r.Delivers a) (s : State) :
    (∃ reply, (serve (m.broker passwords) r s).1.reply = .ok reply) ∧
      (serve (m.broker passwords) r s).2 = s := by
  unfold serve
  cases task : r.task with
  | inl c =>
    cases c with
    | catalog =>
      exact ⟨Served.exists_reply_asAsked r (Served.exists_reply_value 200 m.catalog), rfl⟩
    | action a => exact absurd (Request.task_eq_action_iff.mp task) (h a)
  | inr served => exact ⟨Served.exists_reply_asAsked r (Request.of_task_inr task).2, rfl⟩

theorem perform_provision (m : Memory) (passwords : Nat → Text) (i : Text) (s : State) :
    (m.perform passwords (.provision i) s).1 =
      if s.table.Live i then .error .instanceAlreadyExists
      else if m.limit ≠ 0 ∧ m.limit ≤ s.table.instanceIds.length then
        .error .instanceLimitReached
      else .ok (.text (m.dashboard i)) := by
  rw [perform_answer]
  have effect := effect_after m (passwords s.drawn) (.provision i) s.table
  generalize m.after (passwords s.drawn) (.provision i) s.table = result at effect ⊢
  cases effect with
  | occupied live =>
    rw [if_pos live]
    rfl
  | noRoom dead full =>
    rw [if_neg dead, if_pos (Table.isFull_iff.mp full)]
    rfl
  | provisioned dead room =>
    rw [if_neg dead, if_neg (Table.notFull_iff.mp room)]
    rfl

/-- **Requests are atomic and confined.**  Whatever the request and the state:

* at most one method of the broker is called, once, and the state afterwards is the one after
  this call, or the same if there was none;
* there is a reply, and the state is the same afterwards, or the status is 200 or 201, the
  request is the `PUT` or `DELETE` for the path of an action, this action was called, and
  everything that it is not about is the same and in the same order;
* the catalog is still answered, and a provision is still answered by the same limit and the
  same base for dashboards. -/
theorem serve_atomic_and_confined (m : Memory) (passwords : Nat → Text) (r : Request)
    (s : State) :
    let broker := m.broker passwords
    let served := (serve broker r s).1
    let s' := (serve broker r s).2
    ((served.calls = [] ∧ s' = s) ∨
        ∃ c, served.calls = [c] ∧ s' = (broker.answer c s).2) ∧
      (∃ reply, served.reply = .ok reply ∧
        (s' = s ∨ (reply.status = 200 ∨ reply.status = 201) ∧
          ∃ a, served.calls = [.action a] ∧ r.verb = a.verb ∧ rooted r.path = a.path ∧
            (∀ id ∈ a.ids, id ≠ [] ∧ ('/' : CodePoint) ∉ id) ∧ Confined s.table s'.table a)) ∧
      (broker.answer .catalog s').1 = .ok m.catalog ∧
      ∀ i, (m.perform passwords (.provision i) s').1 =
        if s'.table.Live i then .error .instanceAlreadyExists
        else if m.limit ≠ 0 ∧ m.limit ≤ s'.table.instanceIds.length then
          .error .instanceLimitReached
        else
          .ok (.text (if m.dashboardBase = [] then [] else m.dashboardBase ++ "/instances/" ++ i)) := by
  intro broker served s'
  refine ⟨serve_calls broker r s, ?_, rfl, fun i => ?_⟩
  · by_cases h : ∃ a, r.Delivers a
    · obtain ⟨a, delivered⟩ := h
      obtain ⟨path, verb, ids⟩ := Request.delivers_iff.mp delivered
      obtain ⟨reply, replied, effect⟩ := serve_action delivered s
      have called : served.calls = [.action a] := by
        simp only [served, broker, serve_of_delivers delivered]
        exact answered_calls _ _
      refine ⟨reply, replied, effect.imp id ?_⟩
      rintro ⟨status, confined⟩
      exact ⟨status, a, called, verb, path, ids, confined⟩
    · obtain ⟨⟨reply, replied⟩, stays⟩ := serve_of_not_delivers (not_exists.mp h) s
      exact ⟨reply, replied, .inl stays⟩
  · rw [perform_provision, dashboard_eq]

end Memory
end OpenBroker
