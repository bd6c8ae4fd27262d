import OpenBroker.Proofs.Goal
import OpenBroker.Proofs.Requests

/-! # Requests that arrive more than once

A client that hears nothing sends its request again, so a broker may get each request several
times in a row.  The state is the same as if every request had come once: what was carried out
has reached its goal and is refused from then on, and what was refused is refused again for the
same reason (`serve_again`).  Passwords are drawn by successes only, so the repetitions use up
none, and the password of a binding is the one of the first time.

The answers to the repetitions can differ from the first answer, but only in a way that tells
what happened: 409 behind a 201, and 410 behind a 200 (`Repeats`).
-/
namespace OpenBroker

namespace Http

/-- **The arrivals** of requests that are each repeated so many times, in place. -/
def arrivals (requests : List (Request × Nat)) : List Request :=
  requests.flatMap fun d => List.replicate (d.2 + 1) d.1

/-- **What a repetition is served with**, behind what the request was served with first. -/
def Repeats (first again : Served) : Prop :=
  match first.status? with
  | some 201 => again.status? = some 409
  | some 200 => again.status? = some 410
  | some _ => again = first
  | none => False

/-- What failed is served again in the same way. -/
theorem repeats_self {served : Served} {status : Nat} (h : served.status? = some status)
    (h₀ : status ≠ 200) (h₁ : status ≠ 201) : Repeats served served := by
  rw [Repeats, h]
  split
  · rename_i created
    exact absurd (Option.some.inj created) h₁
  · rename_i removed
    exact absurd (Option.some.inj removed) h₀
  · rfl
  · rename_i missing
    cases missing

end Http

namespace Memory

open Http Table

variable (m : Memory) (passwords : Nat → Text) {r : Request} {a : Action} {s : State}

/-- An action whose goal is reached is refused, and the state stays. -/
theorem serve_of_goal (delivered : r.Delivers a) (reached : s.table.Goal a) :
    ∃ served, serve (m.broker passwords) r s = (served, s) ∧
      served.status? = some a.idleStatus := by
  obtain ⟨e, refused⟩ := refused_of_goal m (passwords s.drawn) reached
  have performed : (m.perform passwords a s).2 = s := by simp [perform, refused]
  rw [serve_of_delivers delivered, answered_perform, performed]
  exact ⟨_, rfl, congrArg some (status_of_goal m _ reached)⟩

/-- **A request that comes again** leaves the state as its first arrival left it. -/
theorem serve_again (h : s.table.Distinct) (delivered : r.Delivers a) :
    ∃ again, serve (m.broker passwords) r (serve (m.broker passwords) r s).2 =
        (again, (serve (m.broker passwords) r s).2) ∧
      Repeats (serve (m.broker passwords) r s).1 again := by
  have first : serve (m.broker passwords) r s = _ := serve_of_delivers delivered
  rw [answered_perform] at first
  rcases m.perform_cases passwords a s with ⟨t, done, performed⟩ | ⟨e, refused, performed⟩
  · rw [performed] at first
    have created := status_of_after done
    have reached : Goal (⟨t, s.drawn + draws a⟩ : State).table a := goal_of_after h done
    obtain ⟨again, served, idle⟩ := serve_of_goal m passwords delivered reached
    rw [first]
    refine ⟨again, served, ?_⟩
    have status : ((m.prescribed (passwords s.drawn) s.table a).served a).status? =
        some a.doneStatus := congrArg some created
    rw [Repeats, status]
    cases a with
    | provision | bind => exact idle
    | deprovision | unbind => exact idle
  · rw [performed] at first
    obtain ⟨notOk, notCreated⟩ := status_of_refused refused
    rw [first]
    exact ⟨_, first, repeats_self rfl notOk notCreated⟩

/-- A request and its repetitions. -/
theorem run_repeated (h : s.table.Distinct) (delivered : r.Delivers a) (n : Nat) :
    ∃ again, Http.run (m.broker passwords) (List.replicate (n + 1) r) s =
        ((serve (m.broker passwords) r s).1 :: List.replicate n again,
          (serve (m.broker passwords) r s).2) ∧
      Repeats (serve (m.broker passwords) r s).1 again := by
  obtain ⟨again, stays, repeats⟩ := serve_again m passwords h delivered
  refine ⟨again, ?_, repeats⟩
  rw [List.replicate_succ, Http.run_cons, run_replicate _ stays]

/-- **A run with repetitions**: the state of the run without them, the answers of that run,
and behind each the answers to the repetitions of its request. -/
theorem run_arrivals_of_distinct (requests : List (Request × Nat)) (h : s.table.Distinct)
    (delivered : ∀ d ∈ requests, ∃ a, d.1.Delivers a) :
    (Http.run (m.broker passwords) (arrivals requests) s).2 =
        (Http.run (m.broker passwords) (requests.map (·.1)) s).2 ∧
      ∃ groups : List (Served × List Served),
        (Http.run (m.broker passwords) (arrivals requests) s).1 =
            groups.flatMap (fun g => g.1 :: g.2) ∧
          groups.map (·.1) = (Http.run (m.broker passwords) (requests.map (·.1)) s).1 ∧
          groups.map (·.2.length) = requests.map (·.2) ∧
          ∀ g ∈ groups, ∀ again ∈ g.2, Repeats g.1 again := by
  induction requests generalizing s with
  | nil => exact ⟨rfl, [], rfl, rfl, rfl, fun g hg => nomatch hg⟩
  | cons d rest ih =>
    obtain ⟨a, here⟩ := delivered d (List.mem_cons_self ..)
    obtain ⟨again, group, repeats⟩ := run_repeated m passwords h here d.2
    obtain ⟨state, groups, answers, firsts, lengths, all⟩ :=
      ih (distinct_serve h m passwords d.1) fun d hd => delivered d (List.mem_cons_of_mem _ hd)
    have split : arrivals (d :: rest) = List.replicate (d.2 + 1) d.1 ++ arrivals rest :=
      List.flatMap_cons
    rw [split, Http.run_append, group, List.map_cons, Http.run_cons]
    refine ⟨state, ((serve (m.broker passwords) d.1 s).1, List.replicate d.2 again) :: groups,
      ?_, ?_, ?_, ?_⟩
    · rw [answers, List.flatMap_cons]
    · rw [List.map_cons, firsts]
    · rw [List.map_cons, lengths, List.map_cons, List.length_replicate]
    · intro g hg served member
      rcases List.mem_cons.mp hg with rfl | hg
      · rw [List.eq_of_mem_replicate member]
        exact repeats
      · exact all g hg served member

/-- **At-least-once delivery is harmless.**  Let requests for actions be repeated, each so many
times in place.  From the start, with the same passwords, they lead to the same state as without
the repetitions.  The first answers are the answers without repetitions, and every one is
followed by the answers to the repetitions of its request: 409 behind a 201, 410 behind a 200,
and the same once more behind a failure. -/
theorem state_and_answers_of_arrivals (requests : List (Request × Nat))
    (delivered : ∀ d ∈ requests, ∃ a, d.1.Delivers a) :
    let once := Http.run (m.broker passwords) (requests.map (·.1)) fresh
    let again := Http.run (m.broker passwords) (arrivals requests) fresh
    again.2 = once.2 ∧
      ∃ groups : List (Served × List Served),
        again.1 = groups.flatMap (fun g => g.1 :: g.2) ∧ groups.map (·.1) = once.1 ∧
          groups.map (·.2.length) = requests.map (·.2) ∧
          ∀ g ∈ groups, ∀ served ∈ g.2, Repeats g.1 served :=
  run_arrivals_of_distinct m passwords requests distinct_fresh delivered

/-- A service with a limit of one.  The second instance is refused as often as it is asked for,
and the binding that is left has the second password, not the fourth. -/
theorem state_and_answers_of_arrivals_limited :
    let m : Memory := ⟨.null, 1, []⟩
    let passwords : Nat → Text := fun n => Text.replicate n 'p'
    let requests : List (Request × Nat) :=
      [(⟨"PUT", "/v2/service_instances/a", []⟩, 2),
        (⟨"PUT", "/v2/service_instances/a/service_bindings/x", []⟩, 1),
        (⟨"PUT", "/v2/service_instances/b", []⟩, 1),
        (⟨"DELETE", "/v2/service_instances/a/service_bindings/x", []⟩, 2),
        (⟨"PUT", "/v2/service_instances/a/service_bindings/y", []⟩, 1)]
    let again := Http.run (m.broker passwords) (arrivals requests) fresh
    (∀ d ∈ requests, ∃ a, d.1.Delivers a) ∧
      again.1.map Served.status? = [some 201, some 409, some 409, some 201, some 409, some 500,
        some 500, some 200, some 410, some 410, some 201, some 409] ∧
      again.2.table = [(("a" : Text), [(("y" : Text), Credentials.issue "a" "y" "p")])] := by
  intro m passwords requests again
  have delivered : ∀ d ∈ requests, ∃ a, d.1.Delivers a := by
    simp only [requests, List.forall_mem_cons, List.not_mem_nil, false_implies, implies_true,
      and_true, Request.delivers_iff]
    exact ⟨⟨.provision "a", by decide +kernel⟩, ⟨.bind "a" "x", by decide +kernel⟩,
      ⟨.provision "b", by decide +kernel⟩, ⟨.unbind "a" "x", by decide +kernel⟩,
      ⟨.bind "a" "y", by decide +kernel⟩⟩
  obtain ⟨state, -⟩ := state_and_answers_of_arrivals m passwords requests delivered
  refine ⟨delivered, by decide +kernel, ?_⟩
  rw [state]
  decide +kernel

end Memory
end OpenBroker
