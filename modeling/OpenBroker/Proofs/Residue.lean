import OpenBroker.Proofs.Run

/-! # A removed instance leaves nothing behind

An instance that is not in a table is created, used in any way, and removed.  Then the table is
the one from before, entry by entry: a later tenant of the same identifier finds nothing.

The reason is that an instance always stands where it was created, at the end, and that actions
on it do not touch what stands before it.  So whatever the actions on one instance are, and
however often they create and remove it, the table is the one from before or has one entry more,
behind all others (`Visited`); a removal takes this entry away.
-/
namespace OpenBroker

namespace Table

/-- **Visited**: a table as it was before, or with one instance behind all that were there. -/
inductive Visited (i : Text) (t : Table) : Table → Prop
  | away : Visited i t t
  | present (bs : Bindings) : Visited i t (t ++ [(i, bs)])

variable {i : Text} {t u : Table}

theorem live_append_self (t : Table) (i : Text) (bs : Bindings) : (t ++ [(i, bs)]).Live i := by
  rw [Live, instanceIds, Keyed.keys_append]
  exact List.mem_append_right _ (List.mem_singleton_self i)

theorem Visited.eq_of_not_live (h : Visited i t u) (dead : ¬ u.Live i) : u = t := by
  cases h with
  | away => rfl
  | present bs => exact absurd (live_append_self t i bs) dead

/-- What is live only with the visitor is the visitor, so its removal ends the visit. -/
theorem Visited.erase_self (h : Visited i t u) (dead : ¬ t.Live i) (live : u.Live i) :
    Keyed.erase i u = t := by
  cases h with
  | away => exact absurd live dead
  | present bs => exact Keyed.erase_append_self dead

theorem Visited.put_self (h : Visited i t u) (dead : ¬ t.Live i) (live : u.Live i)
    (bs : Bindings) : Visited i t (Keyed.put i bs u) := by
  cases h with
  | away => exact absurd live dead
  | present bs' =>
    rw [Keyed.put_append_self dead]
    exact .present bs

end Table

namespace Memory

open Table

variable {m : Memory} {passwords : Nat → Text} {password : Text} {a : Action} {i : Text}
  {t u : Table} {s : State}

/-- **An action on the visitor** leaves the table visited. -/
theorem visited_next (dead : ¬ t.Live a.instanceId) (h : Visited a.instanceId t u) (m : Memory)
    (password : Text) : Visited a.instanceId t (m.next password a u) := by
  have effect := effect_after m password a u
  unfold next
  generalize m.after password a u = result at effect ⊢
  cases effect with
  | provisioned fresh =>
    -- it can only be created while it is away
    rw [h.eq_of_not_live fresh]
    exact .present []
  | deprovisioned live =>
    have ended := h.erase_self dead live
    dsimp only
    exact ended ▸ .away
  | bound found | unbound found => exact h.put_self dead (live_of_find? found) _
  -- what is refused changes nothing
  | occupied | noRoom | gone | bindNowhere | alreadyBound | unbindNowhere | notBound => exact h

/-- **Actions on the visitor**, any number of them, leave the table visited. -/
theorem visited_run (dead : ¬ t.Live i) {calls : List Action} (own : ∀ a ∈ calls, a.instanceId = i)
    (h : Visited i t s.table) : Visited i t (m.run passwords calls s).table := by
  induction calls generalizing s with
  | nil => exact h
  | cons a rest ih =>
    obtain ⟨rfl, others⟩ := List.forall_mem_cons.mp own
    refine ih others ?_
    rw [perform_table]
    exact visited_next dead h m _

/-- The removal ends the visit; where there was none it is refused. -/
theorem next_deprovision_of_visited (dead : ¬ t.Live i) (h : Visited i t u) (m : Memory)
    (password : Text) : m.next password (.deprovision i) u = t := by
  have effect := effect_after m password (.deprovision i) u
  unfold next
  generalize m.after password (.deprovision i) u = result at effect ⊢
  cases effect with
  | gone missing => exact h.eq_of_not_live missing
  | deprovisioned live => exact h.erase_self dead live

/-- **A removed instance leaves nothing behind.**  Take any state in which an instance is not live,
and any actions on this instance, carried out or refused.  Once it is removed behind them, the
table is the same as before, with all instances and bindings in their order.  When the instance
is then created again, it stands behind all others and has no bindings. -/
theorem table_of_removed (m : Memory) (passwords : Nat → Text) (s : State) (i : Text)
    (dead : ¬ s.table.Live i) (calls : List Action) (own : ∀ a ∈ calls, a.instanceId = i) :
    let s' := m.run passwords (calls ++ [.deprovision i]) s
    s'.table = s.table ∧
      ∀ v s'', m.perform passwords (.provision i) s' = (.ok v, s'') →
        s''.table = s.table ++ [(i, [])] ∧ s''.table.bindingIds i = .ok [] := by
  intro s'
  have removed : s'.table = s.table := by
    simp only [s', run_append, run_cons, run_nil, perform_table]
    exact next_deprovision_of_visited dead (visited_run dead own .away) m _
  refine ⟨removed, fun v s'' again => ?_⟩
  rcases m.perform_cases passwords (.provision i) s' with ⟨t, created, hp⟩ | ⟨e, -, hp⟩
  · cases hp.symm.trans again
    have effect := effect_after m (passwords s'.drawn) (.provision i) s'.table
    rw [created, removed] at effect
    cases effect with
    | provisioned _ room =>
      rw [bindingIds_eq, if_pos (live_append_self ..),
        boundIds_of_find? (Keyed.find?_append_self dead)]
      exact ⟨rfl, rfl⟩
  · cases hp.symm.trans again

/-- A visitor takes the last room, twice, with a password each time, and is refused now and then.
When it comes again there is room for it. -/
theorem table_of_removed_two :
    let m : Memory := ⟨.null, 2, []⟩
    let passwords : Nat → Text := fun n => Text.replicate n 'p'
    let s := m.run passwords [.provision "a", .bind "a" "x"] fresh
    let calls : List Action := [.provision "b", .bind "b" "x", .bind "b" "x", .deprovision "b",
      .unbind "b" "x", .provision "b", .bind "b" "y", .provision "b"]
    let s' := m.run passwords (calls ++ [.deprovision "b"]) s
    ¬ s.table.Live "b" ∧ (∀ a ∈ calls, a.instanceId = ("b" : Text)) ∧
      (m.run passwords calls s).table =
        s.table ++ [(("b" : Text), [(("y" : Text), Credentials.issue "b" "y" "pp")])] ∧
      s'.table = s.table ∧
      ∃ v s'', m.perform passwords (.provision "b") s' = (.ok v, s'') ∧
        s''.table.bindingIds "b" = .ok [] := by
  intro m passwords s calls s'
  have dead : ¬ s.table.Live "b" := by decide +kernel
  have own : ∀ a ∈ calls, a.instanceId = ("b" : Text) := by decide +kernel
  obtain ⟨removed, again⟩ := table_of_removed m passwords s "b" dead calls own
  refine ⟨dead, own, by decide +kernel, removed, ?_⟩
  rcases m.perform_cases passwords (.provision "b") s' with ⟨t, -, hp⟩ | ⟨e, refused, -⟩
  · exact ⟨_, _, hp, (again _ _ hp).2⟩
  · have room : (m.after (passwords s'.drawn) (.provision "b") s'.table).isOk = true := by
      decide +kernel
    rw [refused] at room
    cases room

end Memory
end OpenBroker
