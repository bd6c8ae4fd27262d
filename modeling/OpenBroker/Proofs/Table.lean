import OpenBroker.Broker.Memory
import OpenBroker.Proofs.Keyed

/-! # What an action does to the instance table

An action can end in eleven ways, and `Effect` lists them: each with the condition under
which it happens and with the table that follows, if there is one.  Everything else about
a single action is read off this list.

What can be observed of a table are the live instances in order (`instanceIds`) and, for
every instance, its bindings in order (`boundIds`).  The table after an action, carried
out or refused, is `Memory.next`, and both observations of it are functions of the same
observations before (`instanceIds_next`, `boundIds_next`).  So a statement about what a
broker shows never has to look into the table.
-/
namespace OpenBroker
namespace Table

/-- The bindings of an instance, in order; an instance that is not live has none. -/
def boundIds (i : Text) (t : Table) : List Text :=
  ((Keyed.find? i t).map Keyed.keys).getD []

/-- **Live.** -/
def Live (t : Table) (i : Text) : Prop := i ∈ t.instanceIds

/-- **Bound.**  The binding is there, on an instance that is. -/
def Bound (t : Table) (i b : Text) : Prop := b ∈ t.boundIds i

instance (t : Table) (i : Text) : Decidable (t.Live i) :=
  inferInstanceAs (Decidable (i ∈ t.instanceIds))

instance (t : Table) (i b : Text) : Decidable (t.Bound i b) :=
  inferInstanceAs (Decidable (b ∈ t.boundIds i))

/-- **Distinct ids.**  No two instances have the same identifier, and no two bindings of
one instance. -/
structure Distinct (t : Table) : Prop where
  instances : t.instanceIds.Nodup
  bindings : ∀ i, (t.boundIds i).Nodup

variable {t : Table} {i b : Text} {bs : Bindings} {limit : Nat} {password : Text}

@[simp] theorem length_instanceIds (t : Table) : t.instanceIds.length = t.length :=
  Keyed.length_keys t

theorem isFull_iff : t.isFull limit = true ↔ limit ≠ 0 ∧ limit ≤ t.instanceIds.length := by
  simp [isFull]

theorem notFull_iff :
    t.isFull limit = false ↔ ¬ (limit ≠ 0 ∧ limit ≤ t.instanceIds.length) := by
  rw [← isFull_iff, Bool.not_eq_true]

theorem live_of_find? (h : Keyed.find? i t = some bs) : t.Live i := Keyed.mem_keys_of_find? h

theorem not_live_of_find? (h : Keyed.find? i t = none) : ¬ t.Live i :=
  Keyed.find?_eq_none_iff.mp h

theorem find?_of_not_live (h : ¬ t.Live i) : Keyed.find? i t = none :=
  Keyed.find?_eq_none_iff.mpr h

theorem exists_find?_of_live (h : t.Live i) : ∃ bs, Keyed.find? i t = some bs := by
  cases found : Keyed.find? i t with
  | none => exact absurd h (not_live_of_find? found)
  | some bs => exact ⟨bs, rfl⟩

theorem boundIds_of_find? (h : Keyed.find? i t = some bs) : t.boundIds i = Keyed.keys bs := by
  simp [boundIds, h]

theorem bound_iff_of_find? (h : Keyed.find? i t = some bs) : t.Bound i b ↔ b ∈ Keyed.keys bs := by
  rw [Bound, boundIds_of_find? h]

theorem boundIds_of_not_live (h : ¬ t.Live i) : t.boundIds i = [] := by
  simp [boundIds, Keyed.find?_eq_none_iff.mpr h]

theorem live_of_bound (h : t.Bound i b) : t.Live i := by
  apply Classical.byContradiction
  intro hn
  rw [Bound, boundIds_of_not_live hn] at h
  cases h

theorem bindingIds_eq (i : Text) (t : Table) :
    t.bindingIds i = if t.Live i then .ok (t.boundIds i) else .error .instanceDoesNotExist := by
  unfold bindingIds
  cases h : Keyed.find? i t with
  | none => rw [if_neg (not_live_of_find? h)]
  | some bs => rw [if_pos (live_of_find? h), boundIds_of_find? h]

/-! ## The eleven ways an action ends -/

/-- **Effect** of an action on a table. -/
inductive Effect (limit : Nat) (password : Text) (t : Table) :
    Action → Except Sentinel Table → Prop
  | occupied {i : Text} (live : t.Live i) :
      Effect limit password t (.provision i) (.error .instanceAlreadyExists)
  | noRoom {i : Text} (dead : ¬ t.Live i) (full : t.isFull limit = true) :
      Effect limit password t (.provision i) (.error .instanceLimitReached)
  | provisioned {i : Text} (dead : ¬ t.Live i) (room : t.isFull limit = false) :
      Effect limit password t (.provision i) (.ok (t ++ [(i, [])]))
  | gone {i : Text} (dead : ¬ t.Live i) :
      Effect limit password t (.deprovision i) (.error .instanceDoesNotExist)
  | deprovisioned {i : Text} (live : t.Live i) :
      Effect limit password t (.deprovision i) (.ok (Keyed.erase i t))
  | bindNowhere {i b : Text} (dead : ¬ t.Live i) :
      Effect limit password t (.bind i b) (.error .instanceDoesNotExist)
  | alreadyBound {i b : Text} (bound : t.Bound i b) :
      Effect limit password t (.bind i b) (.error .bindingAlreadyExists)
  | bound {i b : Text} {bs : Bindings} (found : Keyed.find? i t = some bs)
      (unbound : b ∉ Keyed.keys bs) :
      Effect limit password t (.bind i b)
        (.ok (Keyed.put i (bs ++ [(b, Credentials.issue i b password)]) t))
  | unbindNowhere {i b : Text} (dead : ¬ t.Live i) :
      Effect limit password t (.unbind i b) (.error .instanceDoesNotExist)
  | notBound {i b : Text} (live : t.Live i) (unbound : ¬ t.Bound i b) :
      Effect limit password t (.unbind i b) (.error .bindingDoesNotExist)
  | unbound {i b : Text} {bs : Bindings} (found : Keyed.find? i t = some bs)
      (bound : b ∈ Keyed.keys bs) :
      Effect limit password t (.unbind i b) (.ok (Keyed.put i (Keyed.erase b bs) t))

theorem effect_provision (limit : Nat) (password i : Text) (t : Table) :
    Effect limit password t (.provision i) (Table.provision limit i t) := by
  unfold Table.provision
  split
  · exact .occupied (Keyed.has_iff.mp ‹_›)
  · rename_i dead
    have dead : ¬ t.Live i := fun h => dead (Keyed.has_iff.mpr h)
    split
    · exact .noRoom dead ‹_›
    · rename_i room
      rw [Keyed.put_of_notMem dead]
      exact .provisioned dead (Bool.eq_false_iff.mpr room)

theorem effect_deprovision (limit : Nat) (password i : Text) (t : Table) :
    Effect limit password t (.deprovision i) (Table.deprovision i t) := by
  unfold Table.deprovision
  split
  · exact .deprovisioned (Keyed.has_iff.mp ‹_›)
  · rename_i dead
    exact .gone fun h => dead (Keyed.has_iff.mpr h)

theorem effect_bind (limit : Nat) (password i b : Text) (t : Table) :
    Effect limit password t (.bind i b) (Table.bind i b password t) := by
  unfold Table.bind
  cases found : Keyed.find? i t with
  | none => exact .bindNowhere (not_live_of_find? found)
  | some bs =>
    dsimp only
    split
    · exact .alreadyBound ((bound_iff_of_find? found).mpr (Keyed.has_iff.mp ‹_›))
    · rename_i unbound
      have unbound : b ∉ Keyed.keys bs := fun h => unbound (Keyed.has_iff.mpr h)
      rw [Keyed.put_of_notMem unbound]
      exact .bound found unbound

theorem effect_unbind (limit : Nat) (password i b : Text) (t : Table) :
    Effect limit password t (.unbind i b) (Table.unbind i b t) := by
  unfold Table.unbind
  cases found : Keyed.find? i t with
  | none => exact .unbindNowhere (not_live_of_find? found)
  | some bs =>
    dsimp only
    split
    · exact .unbound found (Keyed.has_iff.mp ‹_›)
    · rename_i unbound
      exact .notBound (live_of_find? found) fun h =>
        unbound (Keyed.has_iff.mpr ((bound_iff_of_find? found).mp h))

end Table

namespace Memory

open Table

variable {m : Memory} {password : Text} {a : Action} {t : Table}

theorem effect_after (m : Memory) (password : Text) (a : Action) (t : Table) :
    Effect m.limit password t a (m.after password a t) := by
  cases a with
  | provision i => exact effect_provision m.limit password i t
  | deprovision i => exact effect_deprovision m.limit password i t
  | bind i b => exact effect_bind m.limit password i b t
  | unbind i b => exact effect_unbind m.limit password i b t

/-- **The table after an action**, whether the action was carried out or refused. -/
def next (m : Memory) (password : Text) (a : Action) (t : Table) : Table :=
  match m.after password a t with
  | .ok t' => t'
  | .error _ => t

theorem next_of_ok {t' : Table} (h : m.after password a t = .ok t') :
    m.next password a t = t' := by
  simp [next, h]

theorem next_of_error {e : Sentinel} (h : m.after password a t = .error e) :
    m.next password a t = t := by
  simp [next, h]

/-- The live instances after an action.  A refused provision adds none, and a refused
removal finds nothing to remove. -/
theorem instanceIds_next (m : Memory) (password : Text) (a : Action) (t : Table) :
    (m.next password a t).instanceIds =
      match a with
      | .provision i =>
        if t.Live i ∨ t.isFull m.limit = true then t.instanceIds else t.instanceIds ++ [i]
      | .deprovision i => t.instanceIds.erase i
      | .bind _ _ | .unbind _ _ => t.instanceIds := by
  have effect := effect_after m password a t
  unfold next
  generalize m.after password a t = result at effect ⊢
  cases effect with
  | occupied live => simp [live]
  | noRoom dead full => simp [full]
  | provisioned dead room => simp [dead, room, instanceIds]
  | gone dead => exact (List.erase_of_not_mem dead).symm
  | deprovisioned live => exact Keyed.keys_erase _ t
  | bound found _ | unbound found _ => exact Keyed.keys_put_of_mem (live_of_find? found)
  | bindNowhere | alreadyBound | unbindNowhere | notBound => rfl

/-- The bindings of an instance after an action.  An instance that is created has none,
for it had none before either, when it was not live. -/
theorem boundIds_next (h : t.Distinct) (m : Memory) (password : Text) (a : Action) (j : Text) :
    (m.next password a t).boundIds j =
      match a with
      | .provision _ => t.boundIds j
      | .deprovision i => if j = i then [] else t.boundIds j
      | .bind i b =>
        if j = i ∧ t.Live i ∧ ¬ t.Bound i b then t.boundIds j ++ [b] else t.boundIds j
      | .unbind i b => if j = i then (t.boundIds j).erase b else t.boundIds j := by
  have effect := effect_after m password a t
  unfold next
  generalize m.after password a t = result at effect ⊢
  cases effect with
  | occupied | noRoom => rfl
  | @provisioned i dead room =>
    by_cases hj : j = i
    · subst hj
      rw [boundIds_of_not_live dead, boundIds_of_find? (Keyed.find?_append_self dead)]
      rfl
    · simp [boundIds, Keyed.find?_append_of_ne hj]
  | @gone i dead =>
    by_cases hj : j = i
    · subst hj
      simp [boundIds_of_not_live dead]
    · simp [hj]
  | @deprovisioned i live =>
    by_cases hj : j = i
    -- only the first entry is erased, so this is where the identifiers have to be distinct
    · simp [boundIds, hj, Keyed.find?_erase_self h.instances]
    · simp [boundIds, hj, Keyed.find?_erase_of_ne hj]
  | bindNowhere dead => simp [dead]
  | alreadyBound bound => simp [bound]
  | @bound i b bs found unbound =>
    have live := live_of_find? found
    have notBound : ¬ t.Bound i b := fun h => unbound ((bound_iff_of_find? found).mp h)
    by_cases hj : j = i
    · subst hj
      rw [boundIds_of_find? (Keyed.find?_put_self ..), boundIds_of_find? found]
      simp [live, notBound]
    · simp [boundIds, hj, Keyed.find?_put_of_ne hj]
  | @unbindNowhere i b dead =>
    by_cases hj : j = i
    · subst hj
      simp [boundIds_of_not_live dead]
    · simp [hj]
  | @notBound i b live unbound =>
    by_cases hj : j = i
    · subst hj
      simp [List.erase_of_not_mem unbound]
    · simp [hj]
  | @unbound i b bs found bound =>
    by_cases hj : j = i
    · subst hj
      rw [boundIds_of_find? (Keyed.find?_put_self ..), boundIds_of_find? found, Keyed.keys_erase]
      simp
    · simp [boundIds, hj, Keyed.find?_put_of_ne hj]

/-- An instance is live after an action if it was before, or if there was room to create
it, unless it was removed. -/
theorem live_next (h : t.Distinct) (m : Memory) (password : Text) (a : Action) (j : Text) :
    (m.next password a t).Live j ↔
      match a with
      | .provision i => t.Live j ∨ (j = i ∧ t.isFull m.limit = false)
      | .deprovision i => j ≠ i ∧ t.Live j
      | .bind _ _ | .unbind _ _ => t.Live j := by
  unfold Live
  rw [instanceIds_next]
  cases a with
  | provision i =>
    cases full : t.isFull m.limit with
    | true => simp
    | false =>
      by_cases live : t.Live i
      · simp only [live, true_or, if_true]
        exact ⟨.inl, fun hj => hj.elim id fun hi => hi.1 ▸ live⟩
      · simp [live]
  | deprovision i => exact h.instances.mem_erase_iff
  | bind | unbind => rfl

theorem length_instanceIds_next (m : Memory) (password : Text) (a : Action) (t : Table) :
    (m.next password a t).instanceIds.length =
      match a with
      | .provision i =>
        if t.Live i ∨ t.isFull m.limit = true then t.instanceIds.length
        else t.instanceIds.length + 1
      | .deprovision i => if t.Live i then t.instanceIds.length - 1 else t.instanceIds.length
      | .bind _ _ | .unbind _ _ => t.instanceIds.length := by
  rw [instanceIds_next]
  cases a with
  | provision i =>
    dsimp only
    split
    · rfl
    · exact List.length_append
  | deprovision i => exact List.length_erase
  | bind | unbind => rfl

/-- A binding is there after an action if it was before, or if it was created on a live
instance, unless it was removed, alone or with its instance. -/
theorem bound_next (h : t.Distinct) (m : Memory) (password : Text) (a : Action) (j c : Text) :
    (m.next password a t).Bound j c ↔
      match a with
      | .provision _ => t.Bound j c
      | .deprovision i => j ≠ i ∧ t.Bound j c
      | .bind i b => t.Bound j c ∨ (j = i ∧ c = b ∧ t.Live i)
      | .unbind i b => ¬ (j = i ∧ c = b) ∧ t.Bound j c := by
  unfold Bound
  rw [boundIds_next h]
  cases a with
  | provision => rfl
  | deprovision i => by_cases hj : j = i <;> simp [hj]
  | bind i b =>
    by_cases created : j = i ∧ t.Live i ∧ ¬ t.Bound i b
    · obtain ⟨rfl, live, unbound⟩ := created
      simp [live, unbound]
    · simp only [created, if_false]
      refine ⟨.inl, fun hc => hc.elim id ?_⟩
      rintro ⟨rfl, rfl, live⟩
      exact Classical.byContradiction fun unbound => created ⟨rfl, live, unbound⟩
  | unbind i b =>
    by_cases hj : j = i
    · subst hj
      simp [(h.bindings j).mem_erase_iff]
    · simp [hj]

theorem distinct_next (h : t.Distinct) (m : Memory) (password : Text) (a : Action) :
    (m.next password a t).Distinct where
  instances := by
    rw [instanceIds_next]
    cases a with
    | provision i =>
      dsimp only
      split
      · exact h.instances
      · rename_i hn
        exact List.nodup_append.mpr ⟨h.instances, by simp, fun j hj k hk he =>
          hn (.inl (by rw [List.mem_singleton.mp hk] at he; exact he ▸ hj))⟩
    | deprovision i => exact h.instances.erase i
    | bind | unbind => exact h.instances
  bindings := by
    intro j
    rw [boundIds_next h]
    cases a with
    | provision => exact h.bindings j
    | deprovision i =>
      dsimp only
      split
      · exact List.nodup_nil
      · exact h.bindings j
    | bind i b =>
      dsimp only
      split
      · rename_i hb
        obtain ⟨rfl, -, unbound⟩ := hb
        exact List.nodup_append.mpr ⟨h.bindings j, by simp, fun c hc d hd he =>
          unbound (by rw [List.mem_singleton.mp hd] at he; exact he ▸ hc)⟩
      · exact h.bindings j
    | unbind i b =>
      dsimp only
      split
      · exact (h.bindings j).erase b
      · exact h.bindings j

end Memory
end OpenBroker
