import OpenBroker.Proofs.Run

/-! # More room never loses an instance

Two brokers are given the same actions, and the second has at least as much room as the
first (`Roomier`).  Then whatever is live or bound in the first is so in the second, at
every point.

This is not kept by single actions on its own: the second broker may hold more instances
and so be full when the first is not.  It is kept together with a bound on how many more
(`Within.slack`): the second holds at most as many instances more than the first as its
limit is higher.  So whenever there is room in the first, there is room in the second.
-/
namespace OpenBroker
namespace Memory

/-- **At least as much room**: no limit at all, or one that is not below a limit. -/
def Roomier (m m' : Memory) : Prop := m'.limit = 0 ∨ (0 < m.limit ∧ m.limit ≤ m'.limit)

/-- **One table within another**: its instances and bindings are there too, among at most
as many more instances as the limit is higher. -/
structure Within (m m' : Memory) (t t' : Table) : Prop where
  live : ∀ i, t.Live i → t'.Live i
  bound : ∀ i b, t.Bound i b → t'.Bound i b
  slack : m'.limit = 0 ∨
    t'.instanceIds.length + m.limit ≤ t.instanceIds.length + m'.limit

namespace Within
variable {m m' : Memory} {t t' : Table}

/-- Where there is room for a new instance, there is room in the roomier broker, unless
the instance is already there. -/
theorem room (roomier : Roomier m m') (w : Within m m' t t')
    (h : t.isFull m.limit = false) : t'.isFull m'.limit = false := by
  rw [Bool.eq_false_iff, ne_eq, Table.isFull_iff] at h ⊢
  rintro ⟨limited, full⟩
  rcases roomier with unlimited | ⟨positive, -⟩
  · exact limited unlimited
  · rcases w.slack with unlimited | slack
    · exact limited unlimited
    · exact h ⟨by omega, by omega⟩

/-- The bound on the number of instances is kept.  An instance that only the roomier broker
creates is one for which the other was full, and then even the whole limit of the roomier
one is within the bound. -/
theorem slack_next (w : Within m m' t t') (password password' : Text) (a : Action) :
    m'.limit = 0 ∨ (m'.next password' a t').instanceIds.length + m.limit ≤
      (m.next password a t).instanceIds.length + m'.limit := by
  by_cases unlimited : m'.limit = 0
  · exact .inl unlimited
  refine .inr ?_
  have slack := w.slack.resolve_left unlimited
  rw [length_instanceIds_next, length_instanceIds_next]
  cases a with
  | provision i =>
    dsimp only
    by_cases refused : t.Live i ∨ t.isFull m.limit = true
    · rw [if_pos refused]
      split
      · exact slack
      -- only the roomier broker creates the instance, and so the other one is full
      · rename_i accepted
        rw [not_or] at accepted
        obtain ⟨dead, notFull⟩ := accepted
        have full := refused.resolve_left fun live => dead (w.live i live)
        rw [Table.isFull_iff] at full notFull
        have below : t'.instanceIds.length < m'.limit := by
          apply Nat.lt_of_not_le
          exact fun h => notFull ⟨unlimited, h⟩
        omega
    · rw [if_neg refused]
      split <;> omega
  | deprovision i =>
    dsimp only
    by_cases live : t.Live i
    · have positive : 0 < t.instanceIds.length := List.length_pos_of_mem live
      have positive' : 0 < t'.instanceIds.length := List.length_pos_of_mem (w.live i live)
      rw [if_pos live, if_pos (w.live i live)]
      omega
    · rw [if_neg live]
      split <;> omega
  | bind | unbind => exact slack

/-- **The same action in both brokers** keeps the one within the other. -/
theorem next (d : t.Distinct) (d' : t'.Distinct) (roomier : Roomier m m')
    (w : Within m m' t t') (password password' : Text) (a : Action) :
    Within m m' (m.next password a t) (m'.next password' a t') where
  live := by
    intro j hj
    rw [live_next d] at hj
    rw [live_next d']
    cases a with
    | provision i =>
      rcases hj with live | ⟨hj, notFull⟩
      · exact .inl (w.live j live)
      · exact .inr ⟨hj, w.room roomier notFull⟩
    | deprovision i => exact ⟨hj.1, w.live j hj.2⟩
    | bind | unbind => exact w.live j hj
  bound := by
    intro j c hc
    rw [bound_next d] at hc
    rw [bound_next d']
    cases a with
    | provision => exact w.bound j c hc
    | deprovision i => exact ⟨hc.1, w.bound j c hc.2⟩
    | bind i b =>
      rcases hc with bound | ⟨hj, hb, live⟩
      · exact .inl (w.bound j c bound)
      · exact .inr ⟨hj, hb, w.live i live⟩
    | unbind i b => exact ⟨hc.1, w.bound j c hc.2⟩
  slack := w.slack_next password password' a

theorem fresh (roomier : Roomier m m') : Within m m' fresh.table fresh.table where
  live := fun _ h => h
  bound := fun _ _ h => h
  slack := roomier.imp id fun h => Nat.add_le_add_left h.2 0

/-- The same run of both brokers keeps the one within the other. -/
theorem run (roomier : Roomier m m') (passwords passwords' : Nat → Text) (calls : List Action)
    {s s' : State} (d : s.table.Distinct) (d' : s'.table.Distinct)
    (w : Within m m' s.table s'.table) :
    Within m m' (m.run passwords calls s).table (m'.run passwords' calls s').table := by
  induction calls generalizing s s' with
  | nil => exact w
  | cons a rest ih =>
    refine ih ?_ ?_ ?_
    · rw [perform_table]
      exact distinct_next d m _ a
    · rw [perform_table]
      exact distinct_next d' m' _ a
    · rw [perform_table, perform_table]
      exact w.next d d' roomier _ _ a

end Within

/-- **Capacity is monotone.**  Of two fresh brokers that are given the same actions, the
second with no limit, or with one that is not below the limit of the first, whatever is live
in the first after some of the actions is live in the second, and whatever is bound in the
first is bound there in the second. -/
theorem live_and_bound_of_roomier (m m' : Memory) (passwords passwords' : Nat → Text)
    (roomier : m'.limit = 0 ∨ (0 < m.limit ∧ m.limit ≤ m'.limit)) (calls : List Action) (n : Nat) :
    let t := (m.run passwords (calls.take n) fresh).table
    let t' := (m'.run passwords' (calls.take n) fresh).table
    (∀ i, t.Live i → t'.Live i) ∧ ∀ i b, t.Bound i b → t'.Bound i b := by
  intro t t'
  have w : Within m m' t t' :=
    (Within.fresh roomier).run roomier passwords passwords' _ distinct_fresh distinct_fresh
  exact ⟨w.live, w.bound⟩

/-- A limit of one against a limit of two: the first broker refuses what the second
creates, is empty when the second is not, and still shows nothing that the second does
not. -/
theorem live_and_bound_of_roomier_one_two :
    let calls : List Action := [.provision "a", .provision "b", .deprovision "a",
      .provision "c", .bind "c" "x"]
    let t := (Memory.run ⟨.null, 1, []⟩ (fun _ => []) (calls.take 5) fresh).table
    let t' := (Memory.run ⟨.null, 2, []⟩ (fun _ => []) (calls.take 5) fresh).table
    t.Live "c" ∧ t.Bound "c" "x" ∧ ¬ t.Live "b" ∧ t'.Live "b" ∧ t'.Live "c" ∧
      t'.Bound "c" "x" := by
  intro calls t t'
  have h := live_and_bound_of_roomier ⟨.null, 1, []⟩ ⟨.null, 2, []⟩ (fun _ => []) (fun _ => [])
    (.inr ⟨by decide, by decide⟩) calls 5
  exact ⟨by decide, by decide, by decide, by decide, h.1 "c" (by decide),
    h.2 "c" "x" (by decide)⟩

end Memory
end OpenBroker
