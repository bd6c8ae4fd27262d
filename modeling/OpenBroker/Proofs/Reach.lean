import OpenBroker.Broker.Memory
import OpenBroker.Proofs.Instance

/-! # Which tables a broker can reach

A table is **admissible** under a limit if its identifiers are distinct, its instances are not
more than the limit allows, and every binding has the credentials that are issued for it, with
some password.  These are just the tables that a memory broker can reach from the start
(`reachable_iff_admissible`), so nothing stronger is true of all of them.

That every reachable table is admissible is an invariant, kept by each action.  For the
converse a run is read off the table: its instances are created in their order, and each one is
given its bindings in their order before the next one is created (`Table.script`).  The
passwords that have to be drawn stand in the table in just that order (`Table.passwords`).
-/
namespace OpenBroker

namespace Table

/-- **Issued**: whatever is bound on an instance has the credentials of this instance and this
binding, with some password. -/
def Issued (i : Text) (found : Option Bindings) : Prop :=
  ∀ bs, found = some bs → ∀ b c, Keyed.find? b bs = some c →
    ∃ p, Password.Is p ∧ c = ⟨"memory://" ++ i, b, p⟩

/-- **Admissible table** under a limit; zero limits nothing. -/
structure Admissible (limit : Nat) (t : Table) : Prop where
  distinct : t.Distinct
  room : 0 < limit → t.length ≤ limit
  issued : ∀ i, Issued i (Keyed.find? i t)

theorem issued_none (i : Text) : Issued i none := fun _ h => nomatch h

end Table

namespace Memory

open Table

variable {m : Memory} {password : Text} {a : Action} {t : Table}

/-- **Reachable**: the table after some run from the start, whatever passwords are drawn. -/
def Reachable (m : Memory) (t : Table) : Prop :=
  ∃ passwords : Nat → Text, (∀ n, Password.Is (passwords n)) ∧
    ∃ calls, (m.run passwords calls fresh).table = t

/-! ## What is reached is admissible -/

theorem issued_own {found found' : Option Bindings} (hp : Password.Is password)
    (distinct : ∀ bs, found = some bs → (Keyed.keys bs).Nodup)
    (h : Issued a.instanceId found) (made : own password a found = .ok found') :
    Issued a.instanceId found' := by
  cases found with
  | none =>
    cases a with
    | provision i =>
      cases made
      rintro bs ⟨⟩ b c hc
      cases hc
    | deprovision | bind | unbind => cases made
  | some bs =>
    cases a with
    | provision i => cases made
    | deprovision i =>
      cases made
      exact issued_none i
    | bind i b =>
      by_cases bound : b ∈ Keyed.keys bs
      · simp [own, bound] at made
      · simp only [own, bound, if_false, Except.ok.injEq] at made
        subst made
        rintro _ ⟨⟩ b' c hc
        by_cases hb : b' = b
        · subst hb
          rw [Keyed.find?_append_self bound] at hc
          exact ⟨password, hp, (Option.some.inj hc).symm⟩
        · rw [Keyed.find?_append_of_ne hb] at hc
          exact h bs rfl b' c hc
    | unbind i b =>
      by_cases bound : b ∈ Keyed.keys bs
      · simp only [own, bound, if_true, Except.ok.injEq] at made
        subst made
        rintro _ ⟨⟩ b' c hc
        by_cases hb : b' = b
        · subst hb
          rw [Keyed.find?_erase_self (distinct bs rfl)] at hc
          cases hc
        · rw [Keyed.find?_erase_of_ne hb] at hc
          exact h bs rfl b' c hc
      · simp [own, bound] at made

theorem room_next (h : 0 < m.limit → t.length ≤ m.limit) (password : Text) (a : Action)
    (limited : 0 < m.limit) : (m.next password a t).length ≤ m.limit := by
  have before := h limited
  rw [← length_instanceIds] at before
  rw [← length_instanceIds, length_instanceIds_next]
  cases a with
  | provision i =>
    dsimp only
    split
    · exact before
    · rename_i accepted
      have notFull := mt Table.isFull_iff.mpr (not_or.mp accepted).2
      omega
  | deprovision i =>
    dsimp only
    split <;> omega
  | bind | unbind => exact before

/-- **An action keeps a table admissible.** -/
theorem admissible_next (h : t.Admissible m.limit) (hp : Password.Is password) (a : Action) :
    (m.next password a t).Admissible m.limit where
  distinct := distinct_next h.distinct m password a
  room := room_next h.room password a
  issued := by
    intro i
    by_cases mine : i = a.instanceId
    · subst mine
      rcases find?_next_self h.distinct m password a with same | made
      · rw [same]
        exact h.issued _
      · refine issued_own hp (fun bs found => ?_) (h.issued _) made
        rw [← boundIds_of_find? found]
        exact h.distinct.bindings _
    · rw [find?_next_of_ne m password t mine]
      exact h.issued i

theorem admissible_run {passwords : Nat → Text} (hp : ∀ n, Password.Is (passwords n))
    (calls : List Action) {s : State} (h : s.table.Admissible m.limit) :
    (m.run passwords calls s).table.Admissible m.limit := by
  induction calls generalizing s with
  | nil => exact h
  | cons a rest ih =>
    refine ih ?_
    rw [perform_table]
    exact admissible_next h (hp _) a

theorem admissible_fresh (limit : Nat) : fresh.table.Admissible limit where
  distinct := distinct_fresh
  room := fun _ => Nat.zero_le _
  issued := fun i => issued_none i

end Memory

/-! ## What is admissible is reached -/

namespace Table

namespace Admissible
variable {limit : Nat} {t : Table} {e : Text × Bindings} {c : Text × Credentials}

theorem keys_of_mem (h : t.Admissible limit) (he : e ∈ t) : (Keyed.keys e.2).Nodup := by
  have found : Keyed.find? e.1 t = some e.2 := Keyed.find?_of_mem h.distinct.instances he
  rw [← boundIds_of_find? found]
  exact h.distinct.bindings e.1

theorem issued_of_mem (h : t.Admissible limit) (he : e ∈ t) (hc : c ∈ e.2) :
    ∃ p, Password.Is p ∧ c.2 = Credentials.issue e.1 c.1 p :=
  h.issued e.1 e.2 (Keyed.find?_of_mem h.distinct.instances he) c.1 c.2
    (Keyed.find?_of_mem (h.keys_of_mem he) hc)

end Admissible

/-- The actions that create an instance with some bindings. -/
def creation (e : Text × Bindings) : List Action :=
  .provision e.1 :: e.2.map fun c => .bind e.1 c.1

/-- **The run to a table**: its instances one after the other, each with its bindings. -/
def script (t : Table) : List Action := t.flatMap creation

/-- The passwords in a table, in the order of its bindings. -/
def passwords (t : Table) : List Text := t.flatMap fun e => e.2.map fun c => c.2.password

theorem Admissible.password_of_mem {limit : Nat} {t : Table} {p : Text} (h : t.Admissible limit)
    (hp : p ∈ t.passwords) : Password.Is p := by
  obtain ⟨e, he, hp⟩ := List.mem_flatMap.mp hp
  obtain ⟨c, hc, rfl⟩ := List.mem_map.mp hp
  obtain ⟨p, good, credentials⟩ := h.issued_of_mem he hc
  rw [credentials]
  exact good

end Table

namespace Memory

open Table

variable {m : Memory} {passwords : Nat → Text} {n : Nat}

theorem perform_of_ok {a : Action} {s : State} {t : Table}
    (h : m.after (passwords s.drawn) a s.table = .ok t) :
    (m.perform passwords a s).2 = ⟨t, s.drawn + draws a⟩ := by
  simp [perform, h]

/-- A binding is put behind those that the last instance has. -/
theorem after_bind_last {t : Table} {i b : Text} {bs : Bindings} (password : Text)
    (dead : ¬ t.Live i) (unbound : b ∉ Keyed.keys bs) :
    m.after password (.bind i b) (t ++ [(i, bs)]) =
      .ok (t ++ [(i, bs ++ [(b, Credentials.issue i b password)])]) := by
  have found : Keyed.find? i (t ++ [(i, bs)]) = some bs := Keyed.find?_append_self dead
  have free : Keyed.has b bs = false := Bool.eq_false_iff.mpr (mt Keyed.has_iff.mp unbound)
  simp [after, Table.bind, found, free, Keyed.put_of_notMem unbound, Keyed.put_append_self dead]

/-- **The bindings of the last instance** are created one after the other. -/
theorem run_bindings {t : Table} {i : Text} (dead : ¬ t.Live i) (done todo : Bindings)
    (distinct : (Keyed.keys (done ++ todo)).Nodup)
    (issued : ∀ c ∈ todo, c.2 = Credentials.issue i c.1 c.2.password)
    (supplied : Supplies passwords n (todo.map fun c => c.2.password)) :
    m.run passwords (todo.map fun c => .bind i c.1) ⟨t ++ [(i, done)], n⟩ =
      ⟨t ++ [(i, done ++ todo)], n + todo.length⟩ := by
  induction todo generalizing done n with
  | nil => simp
  | cons c rest ih =>
    rw [List.map_cons, supplies_cons] at supplied
    have unbound : c.1 ∉ Keyed.keys done := by
      intro bound
      rw [Keyed.keys_append, List.nodup_append] at distinct
      exact distinct.2.2 c.1 bound c.1 (List.mem_cons_self ..) rfl
    have credentials : (c.1, Credentials.issue i c.1 c.2.password) = c :=
      Prod.ext rfl (issued c (List.mem_cons_self ..)).symm
    have created := after_bind_last (m := m) (passwords n) dead unbound
    rw [supplied.1, credentials] at created
    rw [List.map_cons, run_cons, perform_of_ok (t := t ++ [(i, done ++ [c])])]
    · have later := ih (done ++ [c]) (n := n + 1) (by simpa using distinct)
        (fun c hc => issued c (List.mem_cons_of_mem _ hc)) supplied.2
      rw [List.append_assoc, List.singleton_append] at later
      rw [draws, later, List.length_cons, Nat.add_assoc, Nat.add_comm 1]
    · rw [supplied.1]
      exact created

/-- **An instance** is created behind those that are there. -/
theorem run_creation {t : Table} {e : Text × Bindings} (dead : ¬ t.Live e.1)
    (room : t.isFull m.limit = false) (distinct : (Keyed.keys e.2).Nodup)
    (issued : ∀ c ∈ e.2, c.2 = Credentials.issue e.1 c.1 c.2.password)
    (supplied : Supplies passwords n (e.2.map fun c => c.2.password)) :
    m.run passwords (creation e) ⟨t, n⟩ = ⟨t ++ [e], n + e.2.length⟩ := by
  have created : m.after (passwords n) (.provision e.1) t = .ok (t ++ [(e.1, [])]) := by
    have free : Keyed.has e.1 t = false := Bool.eq_false_iff.mpr (mt Keyed.has_iff.mp dead)
    simp [after, Table.provision, free, room, Keyed.put_of_notMem dead]
  rw [creation, run_cons, perform_of_ok created]
  exact run_bindings dead [] e.2 distinct issued supplied

/-- **The run to a table** leads there, behind whatever instances are there before. -/
theorem run_script (before t : Table) (distinct : (before ++ t).instanceIds.Nodup)
    (room : 0 < m.limit → (before ++ t).length ≤ m.limit)
    (bindings : ∀ e ∈ t, (Keyed.keys e.2).Nodup)
    (issued : ∀ e ∈ t, ∀ c ∈ e.2, c.2 = Credentials.issue e.1 c.1 c.2.password)
    (supplied : Supplies passwords n t.passwords) :
    (m.run passwords t.script ⟨before, n⟩).table = before ++ t := by
  induction t generalizing before n with
  | nil => simp [script]
  | cons e rest ih =>
    rw [Table.passwords, List.flatMap_cons, supplies_append, List.length_map] at supplied
    have dead : ¬ before.Live e.1 := by
      intro live
      rw [instanceIds, Keyed.keys_append, List.nodup_append] at distinct
      exact distinct.2.2 e.1 live e.1 (List.mem_cons_self ..) rfl
    have notFull : before.isFull m.limit = false := by
      rw [Table.notFull_iff, length_instanceIds]
      rintro ⟨limited, full⟩
      have fits := room (Nat.pos_of_ne_zero limited)
      rw [List.length_append, List.length_cons] at fits
      omega
    have created := run_creation (m := m) dead notFull (bindings e (List.mem_cons_self ..))
      (issued e (List.mem_cons_self ..)) supplied.1
    have assoc : before ++ [e] ++ rest = before ++ e :: rest := List.append_cons .. |>.symm
    rw [script, List.flatMap_cons, run_append, created, ← assoc]
    rw [← assoc] at distinct room
    exact ih (before ++ [e]) distinct room (fun e he => bindings e (List.mem_cons_of_mem _ he))
      (fun e he => issued e (List.mem_cons_of_mem _ he)) supplied.2

/-- **The tables that can be reached** under a limit are the admissible ones: the identifiers
of the instances are distinct, and so are those of the bindings of each instance; there are at
most as many instances as the limit, if there is one; and a binding has as its credentials the
address of its instance, its own name and some password.  Every such table is reached, in the
very order that it has. -/
theorem reachable_iff_admissible (m : Memory) (t : Table) :
    m.Reachable t ↔ t.Admissible m.limit := by
  constructor
  · rintro ⟨passwords, drawn, calls, rfl⟩
    exact admissible_run drawn calls (admissible_fresh m.limit)
  · intro h
    let otherwise : Text := Password.write (List.replicate Password.size 0)
    let passwords : Nat → Text := fun n => t.passwords.getD n otherwise
    refine ⟨passwords, fun n => ?_, t.script, ?_⟩
    · cases found : t.passwords[n]? with
      | some p =>
        have drawn : passwords n = p := by simp [passwords, found]
        rw [drawn]
        exact h.password_of_mem (List.mem_of_getElem? found)
      | none =>
        have drawn : passwords n = otherwise := by simp [passwords, found]
        rw [drawn]
        exact ⟨_, List.length_replicate .., rfl⟩
    · refine run_script [] t h.distinct.instances h.room (fun e he => h.keys_of_mem he) ?_
        (supplies_getD t.passwords otherwise)
      intro e he c hc
      obtain ⟨p, -, credentials⟩ := h.issued_of_mem he hc
      rw [credentials]
      rfl

end Memory
end OpenBroker
