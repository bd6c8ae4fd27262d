import OpenBroker.Proofs.Isolation

/-! # Runs of requests

An application is asked one request after the other, each in the state that the one before
left.  Whatever is asked, and however often, the identifiers in the table of a memory broker
stay distinct (`distinct_requests`): only requests that are delivered to an action change the
table, so what all actions keep is kept by all requests (`table_requests`).
-/
namespace OpenBroker

namespace Http

/-- The status of the reply, if there is one. -/
def Served.status? (s : Served) : Option Nat := s.reply.toOption.map Reply.status

variable {σ : Type} (broker : Broker σ)

theorem run_cons (r : Request) (rest : List Request) (s : σ) :
    run broker (r :: rest) s =
      ((serve broker r s).1 :: (run broker rest (serve broker r s).2).1,
        (run broker rest (serve broker r s).2).2) := rfl

theorem run_append (first second : List Request) (s : σ) :
    run broker (first ++ second) s =
      ((run broker first s).1 ++ (run broker second (run broker first s).2).1,
        (run broker second (run broker first s).2).2) := by
  induction first generalizing s with
  | nil => rfl
  | cons r rest ih => rw [List.cons_append, run_cons, run_cons, ih, List.cons_append]

/-- A request that leaves the state is served in the same way any number of times. -/
theorem run_replicate {r : Request} {s : σ} {served : Served}
    (stays : serve broker r s = (served, s)) (n : Nat) :
    run broker (List.replicate n r) s = (List.replicate n served, s) := by
  induction n with
  | zero => rfl
  | succ n ih => rw [List.replicate_succ, run_cons, stays, ih, List.replicate_succ]

end Http

namespace Memory

open Http

variable {m : Memory} {passwords : Nat → Text} {s : State}

/-- **What every action keeps**, every request keeps. -/
theorem table_serve (P : Table → Prop)
    (keeps : ∀ password a t, P t → P (m.next password a t)) (passwords : Nat → Text)
    (r : Request) (h : P s.table) : P (serve (m.broker passwords) r s).2.table := by
  by_cases delivered : ∃ a, r.Delivers a
  · obtain ⟨a, delivered⟩ := delivered
    rw [serve_of_delivers delivered, perform_table]
    exact keeps _ a _ h
  · rw [(serve_of_not_delivers (not_exists.mp delivered) s).2]
    exact h

/-- **What every action keeps**, every run of requests keeps. -/
theorem table_requests (P : Table → Prop)
    (keeps : ∀ password a t, P t → P (m.next password a t)) (passwords : Nat → Text)
    (requests : List Request) (h : P s.table) :
    P (Http.run (m.broker passwords) requests s).2.table := by
  induction requests generalizing s with
  | nil => exact h
  | cons r rest ih =>
    rw [Http.run_cons]
    exact ih (table_serve P keeps passwords r h)

theorem distinct_serve (h : s.table.Distinct) (m : Memory) (passwords : Nat → Text)
    (r : Request) : (serve (m.broker passwords) r s).2.table.Distinct :=
  table_serve Table.Distinct (fun password a _ before => distinct_next before m password a)
    passwords r h

/-- **The identifiers stay distinct**, whatever is asked. -/
theorem distinct_requests (h : s.table.Distinct) (m : Memory) (passwords : Nat → Text)
    (requests : List Request) :
    (Http.run (m.broker passwords) requests s).2.table.Distinct :=
  table_requests Table.Distinct (fun password a _ before => distinct_next before m password a)
    passwords requests h

end Memory
end OpenBroker
