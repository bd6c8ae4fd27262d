import OpenBroker.Proofs.Table

/-! # Runs of a memory broker

A run is a sequence of actions, each performed in the state that the one before left.
An action that is refused leaves the state as it was (`perform_cases`), so a run is
driven by its successes alone: its `history` lists them.

Two runs can be compared although they draw different numbers of passwords: what matters of
a stream are the passwords that it has from some place on (`Supplies`).
-/
namespace OpenBroker

/-- **History.**  Actions that succeeded, the earliest first. -/
abbrev History := List Action

namespace Memory

variable (m : Memory) (passwords : Nat → Text)

/-- **Run**: the state after some actions, one after the other. -/
def run (calls : List Action) (s : State) : State :=
  calls.foldl (fun s a => (m.perform passwords a s).2) s

/-- **The history of a run.** -/
def history : List Action → State → History
  | [], _ => []
  | a :: rest, s =>
    match m.perform passwords a s with
    | (.ok _, s') => a :: history rest s'
    | (.error _, s') => history rest s'

/-- **The answers of a run**, one for each of its actions. -/
def answers : List Action → State → List (Except Sentinel Value)
  | [], _ => []
  | a :: rest, s => (m.perform passwords a s).1 :: answers rest (m.perform passwords a s).2

@[simp] theorem run_nil (s : State) : m.run passwords [] s = s := rfl

@[simp] theorem run_cons (a : Action) (rest : List Action) (s : State) :
    m.run passwords (a :: rest) s = m.run passwords rest (m.perform passwords a s).2 := rfl

/-- An action is carried out, or it is refused and the state stays. -/
theorem perform_cases (a : Action) (s : State) :
    (∃ t, m.after (passwords s.drawn) a s.table = .ok t ∧
      m.perform passwords a s =
        (.ok (m.success (passwords s.drawn) a), ⟨t, s.drawn + draws a⟩)) ∨
    (∃ e, m.after (passwords s.drawn) a s.table = .error e ∧
      m.perform passwords a s = (.error e, s)) := by
  cases h : m.after (passwords s.drawn) a s.table with
  | ok t => exact .inl ⟨t, rfl, by simp [perform, h]⟩
  | error e => exact .inr ⟨e, rfl, by simp [perform, h]⟩

theorem perform_table (a : Action) (s : State) :
    (m.perform passwords a s).2.table = m.next (passwords s.drawn) a s.table := by
  rcases m.perform_cases passwords a s with ⟨t, h, hp⟩ | ⟨e, h, hp⟩
  · rw [hp, next_of_ok h]
  · rw [hp, next_of_error h]

theorem perform_answer (a : Action) (s : State) :
    (m.perform passwords a s).1 =
      (m.after (passwords s.drawn) a s.table).map fun _ => m.success (passwords s.drawn) a := by
  rcases m.perform_cases passwords a s with ⟨t, h, hp⟩ | ⟨e, h, hp⟩
  · rw [hp, h]; rfl
  · rw [hp, h]; rfl

theorem run_append (first second : List Action) (s : State) :
    m.run passwords (first ++ second) s = m.run passwords second (m.run passwords first s) :=
  List.foldl_append

theorem distinct_fresh : fresh.table.Distinct :=
  ⟨List.nodup_nil, fun _ => List.nodup_nil⟩

theorem distinct_run (calls : List Action) {s : State} (h : s.table.Distinct) :
    (m.run passwords calls s).table.Distinct := by
  induction calls generalizing s with
  | nil => exact h
  | cons a rest ih =>
    refine ih ?_
    rw [perform_table]
    exact distinct_next h m _ a

/-! ## Supplies of passwords -/

/-- **Supply**: from a place on, the stream begins with the wanted passwords. -/
def Supplies (n : Nat) (wanted : List Text) : Prop :=
  ∀ k p, wanted[k]? = some p → passwords (n + k) = p

variable {passwords} {n : Nat} {wanted : List Text} {password : Text}

theorem supplies_nil : Supplies passwords n [] := fun _ _ h => nomatch h

theorem supplies_cons :
    Supplies passwords n (password :: wanted) ↔
      passwords n = password ∧ Supplies passwords (n + 1) wanted := by
  constructor
  · intro h
    refine ⟨h 0 password rfl, fun k p hk => ?_⟩
    rw [Nat.add_assoc, Nat.add_comm 1 k]
    exact h (k + 1) p hk
  · rintro ⟨first, rest⟩ k p hk
    cases k with
    | zero => exact first.trans (Option.some.inj hk)
    | succ k =>
      rw [← Nat.add_assoc, Nat.add_right_comm]
      exact rest k p hk

theorem supplies_append {more : List Text} :
    Supplies passwords n (wanted ++ more) ↔
      Supplies passwords n wanted ∧ Supplies passwords (n + wanted.length) more := by
  induction wanted generalizing n with
  | nil => simp [supplies_nil]
  | cons p rest ih =>
    rw [List.cons_append, supplies_cons, supplies_cons, ih, and_assoc, List.length_cons,
      Nat.add_assoc, Nat.add_comm 1]

/-- There is a stream with any passwords at its beginning. -/
theorem supplies_getD (wanted : List Text) (otherwise : Text) :
    Supplies (fun n => wanted.getD n otherwise) 0 wanted := by
  intro k p hk
  simp [hk]

end Memory
end OpenBroker
