import OpenBroker.Proofs.Run

/-! # What an action does to one instance

All that a table holds about an instance is found under its identifier: nothing, if the
instance is not live, and its bindings if it is.  An action on another instance changes
nothing there (`find?_next_of_ne`).  An action on the instance itself depends on nothing
else in the table, as long as there is room: what it answers and what it leaves is `own`
of what is found (`map_after_eq_own`).

So the table is a family of instances that do not see each other, and the limit is all
that they share.
-/
namespace OpenBroker
namespace Memory

open Table

/-- **An action on its own instance**, of which some bindings are found, or none if it is
not live. -/
def own (password : Text) : Action → Option Bindings → Except Sentinel (Option Bindings)
  | .provision _, none => .ok (some [])
  | .provision _, some _ => .error .instanceAlreadyExists
  | .deprovision _, none => .error .instanceDoesNotExist
  | .deprovision _, some _ => .ok none
  | .bind _ _, none => .error .instanceDoesNotExist
  | .bind i b, some bs =>
    if b ∈ Keyed.keys bs then .error .bindingAlreadyExists
    else .ok (some (bs ++ [(b, Credentials.issue i b password)]))
  | .unbind _ _, none => .error .instanceDoesNotExist
  | .unbind _ b, some bs =>
    if b ∈ Keyed.keys bs then .ok (some (Keyed.erase b bs)) else .error .bindingDoesNotExist

variable {m : Memory} {password : Text} {a : Action} {t : Table} {j : Text}

/-- The password matters only to a binding that is created. -/
theorem own_congr {password' : Text} {found : Option Bindings}
    (same : ∀ v, own password a found = .ok v → draws a = 1 → password' = password) :
    own password' a found = own password a found := by
  cases a with
  | provision | deprovision | unbind => cases found <;> rfl
  | bind i b =>
    cases found with
    | none => rfl
    | some bs =>
      by_cases bound : b ∈ Keyed.keys bs
      · simp [own, bound]
      · have created : own password (.bind i b) (some bs) =
            .ok (some (bs ++ [(b, Credentials.issue i b password)])) := by simp [own, bound]
        rw [same _ created rfl]

/-- **The other instances** keep what they have. -/
theorem find?_next_of_ne (m : Memory) (password : Text) (t : Table) (ne : j ≠ a.instanceId) :
    Keyed.find? j (m.next password a t) = Keyed.find? j t := by
  have effect := effect_after m password a t
  unfold next
  generalize m.after password a t = result at effect ⊢
  cases effect with
  | provisioned => exact Keyed.find?_append_of_ne ne
  | deprovisioned => exact Keyed.find?_erase_of_ne ne
  | bound | unbound => exact Keyed.find?_put_of_ne ne ..
  | occupied | noRoom | gone | bindNowhere | alreadyBound | unbindNowhere | notBound => rfl

/-- **The instance itself** decides about an action on it, unless it is the room that is
missing. -/
theorem map_after_eq_own (h : t.Distinct)
    (accepted : m.after password a t ≠ .error .instanceLimitReached) :
    (m.after password a t).map (Keyed.find? a.instanceId) =
      own password a (Keyed.find? a.instanceId t) := by
  have effect := effect_after m password a t
  generalize m.after password a t = result at effect accepted ⊢
  cases effect with
  | @occupied i live =>
    obtain ⟨bs, found⟩ := exists_find?_of_live live
    simp [Action.instanceId, found, own, Except.map]
  | noRoom => exact absurd rfl accepted
  | @provisioned i dead room =>
    have nothing : Keyed.find? i t = none := find?_of_not_live dead
    simp [Action.instanceId, nothing, own, Except.map, Keyed.find?_append_self dead]
  | @gone i dead =>
    have nothing : Keyed.find? i t = none := find?_of_not_live dead
    simp [Action.instanceId, nothing, own, Except.map]
  | @deprovisioned i live =>
    obtain ⟨bs, found⟩ := exists_find?_of_live live
    simp [Action.instanceId, found, own, Except.map, Keyed.find?_erase_self h.instances]
  | @bindNowhere i b dead =>
    have nothing : Keyed.find? i t = none := find?_of_not_live dead
    simp [Action.instanceId, nothing, own, Except.map]
  | @alreadyBound i b bound =>
    obtain ⟨bs, found⟩ := exists_find?_of_live (live_of_bound bound)
    have mem : b ∈ Keyed.keys bs := (bound_iff_of_find? found).mp bound
    simp [Action.instanceId, found, own, Except.map, mem]
  | @bound i b bs found unbound =>
    simp [Action.instanceId, found, own, Except.map, unbound, Keyed.find?_put_self]
  | @unbindNowhere i b dead =>
    have nothing : Keyed.find? i t = none := find?_of_not_live dead
    simp [Action.instanceId, nothing, own, Except.map]
  | @notBound i b live unbound =>
    obtain ⟨bs, found⟩ := exists_find?_of_live live
    have notMem : b ∉ Keyed.keys bs := mt (bound_iff_of_find? found).mpr unbound
    simp [Action.instanceId, found, own, Except.map, notMem]
  | @unbound i b bs found bound =>
    simp [Action.instanceId, found, own, Except.map, bound, Keyed.find?_put_self]

/-- What is found of the instance after an action on it is what was found before, or what
the action made of that. -/
theorem find?_next_self (h : t.Distinct) (m : Memory) (password : Text) (a : Action) :
    Keyed.find? a.instanceId (m.next password a t) = Keyed.find? a.instanceId t ∨
      own password a (Keyed.find? a.instanceId t) =
        .ok (Keyed.find? a.instanceId (m.next password a t)) := by
  cases result : m.after password a t with
  | error e => exact .inl (by rw [next_of_error result])
  | ok t' =>
    have accepted : m.after password a t ≠ .error .instanceLimitReached := by simp [result]
    have made := map_after_eq_own h accepted
    rw [result] at made
    rw [next_of_ok result]
    exact .inr made.symm

end Memory
end OpenBroker
