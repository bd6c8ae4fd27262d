import Mathlib.Data.Finset.Card
import Mathlib.Data.Finset.Dedup
import OpenBroker.Proofs.Run

/-! # Clients that create instances at the same time

Some clients each have a queue of instances that they want created.  A broker serves one call at
a time, so what it sees is an **interleaving** of the queues: any order of all the calls in which
every client's own calls keep theirs.

Who wins an instance, and who is told that there is no room left, depends on the order.  How many
instances are created does not (`history_of_interleaved_provisions`): it is the number of
different instances that are wanted and not there yet, or the room that is left if that is less.
The reason is that every call keeps the sum of what was created and what can still be created
(`creatable`), and an order of the calls enters that only through the set of what is wanted.
-/
namespace OpenBroker

/-! ## Interleavings -/

/-- **Interleaving**: as long as there is a queue with something in it, its first entry comes
next, whichever queue it is. -/
inductive Interleaves {α : Type} : List (List α) → List α → Prop
  | done {queues : List (List α)} (served : ∀ q ∈ queues, q = []) : Interleaves queues []
  | next {before after : List (List α)} {first : α} {rest merged : List α}
      (later : Interleaves (before ++ rest :: after) merged) :
      Interleaves (before ++ (first :: rest) :: after) (first :: merged)

/-- An interleaving has the entries of all queues, each as often as they have it. -/
theorem Interleaves.perm {α : Type} {queues : List (List α)} {merged : List α}
    (h : Interleaves queues merged) : merged.Perm queues.flatten := by
  induction h with
  | @done queues served =>
    have nothing : queues.flatten = [] := List.flatten_eq_nil_iff.mpr served
    rw [nothing]
  | @next before after first rest merged later ih =>
    have moved : (before ++ (first :: rest) :: after).flatten =
        before.flatten ++ first :: (rest ++ after.flatten) := by simp
    have left : (before ++ rest :: after).flatten =
        before.flatten ++ (rest ++ after.flatten) := by simp
    rw [left] at ih
    rw [moved]
    exact (ih.cons first).trans List.perm_middle.symm

namespace Memory

open Table

/-! ## What can still be created -/

/-- **How many instances can be created** of a set that is wanted, when some are live. -/
def creatable (limit : Nat) (wanted : Finset Text) (live : List Text) : Nat :=
  let missing := (wanted \ live.toFinset).card
  if limit = 0 then missing else min missing (limit - live.length)

section
variable {limit : Nat} {wanted : Finset Text} {live : List Text} {i : Text}

theorem creatable_insert_of_mem (h : i ∈ live) :
    creatable limit (insert i wanted) live = creatable limit wanted live := by
  have same : insert i wanted \ live.toFinset = wanted \ live.toFinset :=
    Finset.insert_sdiff_of_mem wanted (List.mem_toFinset.mpr h)
  rw [creatable, same, creatable]

/-- Without room nothing can be created. -/
theorem creatable_of_full (limited : limit ≠ 0) (full : limit ≤ live.length) :
    creatable limit wanted live = 0 := by
  rw [creatable, if_neg limited, Nat.sub_eq_zero_of_le full, Nat.min_zero]

/-- **An instance that is created** is one less that can be created. -/
theorem creatable_insert_of_notMem (dead : i ∉ live) (room : ¬ (limit ≠ 0 ∧ limit ≤ live.length)) :
    creatable limit (insert i wanted) live = creatable limit wanted (live ++ [i]) + 1 := by
  have others : insert i wanted \ live.toFinset =
      insert i (wanted \ (live ++ [i]).toFinset) := by
    ext j
    by_cases hj : j = i
    · simp [hj, dead]
    · simp [hj]
  have new : i ∉ wanted \ (live ++ [i]).toFinset := by simp
  have fewer : (insert i wanted \ live.toFinset).card =
      (wanted \ (live ++ [i]).toFinset).card + 1 := by
    rw [others, Finset.card_insert_of_notMem new]
  unfold creatable
  dsimp only
  rw [fewer, List.length_append, List.length_singleton]
  by_cases unlimited : limit = 0
  · rw [if_pos unlimited, if_pos unlimited]
  · have below : live.length < limit := by
      apply Nat.lt_of_not_le
      exact fun full => room ⟨unlimited, full⟩
    rw [if_neg unlimited, if_neg unlimited]
    omega

end

/-! ## Provisions one after the other -/

variable {m : Memory} {passwords : Nat → Text} {i j : Text} {s : State}

/-- A provision creates its instance, or is refused because the instance is there or there is no
room for it. -/
theorem provision_cases (m : Memory) (passwords : Nat → Text) (i : Text) (s : State) :
    (∃ v t, m.perform passwords (.provision i) s = (.ok v, ⟨t, s.drawn⟩) ∧
      ¬ s.table.Live i ∧ s.table.isFull m.limit = false ∧
      t.instanceIds = s.table.instanceIds ++ [i]) ∨
    (∃ e, m.perform passwords (.provision i) s = (.error e, s) ∧
      (s.table.Live i ∨ s.table.isFull m.limit = true)) := by
  have effect := effect_after m (passwords s.drawn) (.provision i) s.table
  rcases m.perform_cases passwords (.provision i) s with
    ⟨t, done, performed⟩ | ⟨e, refused, performed⟩
  · rw [done] at effect
    cases effect with
    | provisioned dead room =>
      exact .inl ⟨_, _, performed, dead, room, Keyed.keys_append _ _⟩
  · rw [refused] at effect
    cases effect with
    | occupied live => exact .inr ⟨_, performed, .inl live⟩
    | noRoom dead full => exact .inr ⟨_, performed, .inr full⟩

/-- An instance that is live is not created again. -/
theorem provision_notMem_history (ids : List Text) (live : s.table.Live i) :
    Action.provision i ∉ m.history passwords (ids.map .provision) s := by
  induction ids generalizing s with
  | nil => exact List.not_mem_nil
  | cons j rest ih =>
    rw [List.map_cons, history]
    rcases provision_cases m passwords j s with
      ⟨v, t, performed, dead, -, created⟩ | ⟨e, performed, -⟩
    · rw [performed]
      have still : (⟨t, s.drawn⟩ : State).table.Live i := by
        rw [Live, created]
        exact List.mem_append_left _ live
      have other : i ≠ j := by
        rintro rfl
        exact dead live
      simpa [other] using ih still
    · rw [performed]
      exact ih live

/-- No instance is created twice. -/
theorem nodup_history_provisions (m : Memory) (passwords : Nat → Text) (ids : List Text)
    (s : State) : (m.history passwords (ids.map .provision) s).Nodup := by
  induction ids generalizing s with
  | nil => exact List.nodup_nil
  | cons j rest ih =>
    rw [List.map_cons, history]
    rcases provision_cases m passwords j s with
      ⟨v, t, performed, -, -, created⟩ | ⟨e, performed, -⟩
    · rw [performed]
      have live : (⟨t, s.drawn⟩ : State).table.Live j := by
        rw [Live, created]
        exact List.mem_append_right _ (List.mem_singleton_self j)
      exact List.nodup_cons.mpr ⟨provision_notMem_history rest live, ih _⟩
    · rw [performed]
      exact ih s

/-- **How many provisions succeed** is how many instances could be created before. -/
theorem length_history_provisions (m : Memory) (passwords : Nat → Text) (ids : List Text)
    (s : State) :
    (m.history passwords (ids.map .provision) s).length =
      creatable m.limit ids.toFinset s.table.instanceIds := by
  induction ids generalizing s with
  | nil =>
    rw [List.map_nil, history, List.length_nil, creatable, List.toFinset_nil, Finset.empty_sdiff]
    simp
  | cons j rest ih =>
    rw [List.map_cons, history, List.toFinset_cons]
    rcases provision_cases m passwords j s with
      ⟨v, t, performed, dead, room, created⟩ | ⟨e, performed, reason⟩
    · rw [performed]
      dsimp only
      rw [List.length_cons, ih, created, creatable_insert_of_notMem dead (notFull_iff.mp room)]
    · rw [performed]
      dsimp only
      rw [ih]
      rcases reason with live | full
      · rw [creatable_insert_of_mem live]
      · obtain ⟨limited, reached⟩ := isFull_iff.mp full
        rw [creatable_of_full limited reached, creatable_of_full limited reached]

/-- **Clients that create instances** at the same time, from any state of the broker.  In
whatever order their calls are served, no instance that is live before is created, and no other
one is created twice.  The number of instances that are created is the same for all orders: that
of the different instances that were asked for and are not live before, but no more than the
room that there is before, if there is a limit. -/
theorem history_of_interleaved_provisions (m : Memory) (passwords : Nat → Text) (s : State)
    (clients : List (List Text)) (order : List Text) (interleaved : Interleaves clients order) :
    let created := m.history passwords (order.map .provision) s
    let missing := (clients.flatten.toFinset \ s.table.instanceIds.toFinset).card
    (∀ i, ¬ s.table.Live i → created.count (.provision i) ≤ 1) ∧
      (∀ i, s.table.Live i → Action.provision i ∉ created) ∧
      created.length =
        if m.limit = 0 then missing
        else min missing (m.limit - s.table.instanceIds.length) := by
  intro created missing
  refine ⟨fun i _ => ?_, fun i live => provision_notMem_history order live, ?_⟩
  · exact List.nodup_iff_count_le_one.mp (nodup_history_provisions m passwords order s) _
  · have same : order.toFinset = clients.flatten.toFinset :=
      List.toFinset_eq_of_perm _ _ interleaved.perm
    rw [length_history_provisions, same, creatable]

/-- Two clients and room for two more instances.  One order gives both to the first client, the
other one to each of them; it is two instances either way. -/
theorem history_of_interleaved_provisions_two :
    let m : Memory := ⟨.null, 3, []⟩
    let passwords : Nat → Text := fun _ => []
    let s := m.run passwords [.provision "a", .bind "a" "x"] fresh
    let clients : List (List Text) := [["a", "b", "c"], ["d", "b"]]
    let first : List Text := ["a", "b", "d", "c", "b"]
    let second : List Text := ["a", "b", "c", "d", "b"]
    Interleaves clients first ∧ Interleaves clients second ∧
      m.history passwords (first.map .provision) s = [.provision "b", .provision "d"] ∧
      m.history passwords (second.map .provision) s = [.provision "b", .provision "c"] ∧
      (clients.flatten.toFinset \ s.table.instanceIds.toFinset).card = 3 ∧
      (m.history passwords (second.map .provision) s).length = 2 := by
  intro m passwords s clients first second
  have finished : Interleaves ([[], []] : List (List Text)) [] := .done (by simp)
  have last : Interleaves ([[], ["b"]] : List (List Text)) ["b"] :=
    @Interleaves.next Text [[]] [] "b" [] _ finished
  have interleaved : Interleaves clients first :=
    @Interleaves.next Text [] [["d", "b"]] "a" ["b", "c"] _ <|
    @Interleaves.next Text [] [["d", "b"]] "b" ["c"] _ <|
    @Interleaves.next Text [["c"]] [] "d" ["b"] _ <|
    @Interleaves.next Text [] [["b"]] "c" [] _ last
  have queued : Interleaves clients second :=
    @Interleaves.next Text [] [["d", "b"]] "a" ["b", "c"] _ <|
    @Interleaves.next Text [] [["d", "b"]] "b" ["c"] _ <|
    @Interleaves.next Text [] [["d", "b"]] "c" [] _ <|
    @Interleaves.next Text [[]] [] "d" ["b"] _ last
  have missing : (clients.flatten.toFinset \ s.table.instanceIds.toFinset).card = 3 := by
    decide +kernel
  obtain ⟨-, -, number⟩ := history_of_interleaved_provisions m passwords s clients second queued
  refine ⟨interleaved, queued, by decide +kernel, by decide +kernel, missing, ?_⟩
  rw [number, missing]
  decide +kernel

end Memory
end OpenBroker
