import OpenBroker.Proofs.Instance

/-! # Actions that do not see each other

All that matters of a table, but for the order of its entries, are its **cells**: for an
instance and a binding, whether the instance is live and, if it is, with which credentials the
binding is there.  An action that is carried out changes some of the cells and leaves the others
(`cell_after`), and whether it is carried out depends on one of its own cells only, and for a
creation on whether there is room (`refusal_after`).

So two actions commute as soon as neither changes the cell that the other looks at: those on
different instances, and those on different bindings of one instance.  Only the room is shared,
and it is the creation of an instance that looks for it; the creation and the removal of a
binding need none and leave it as it is.
-/
namespace OpenBroker

/-! ## The cells of a table -/

namespace Table

variable {t u : Table} {i b : Text} {bs : Bindings}

/-- **Cell** of a table: nothing, if the instance is not live, and otherwise the credentials of
the binding, if it is there. -/
def cell (i b : Text) (t : Table) : Option (Option Credentials) :=
  (Keyed.find? i t).map (Keyed.find? b)

/-- **The same entries**: the same instances in some order, each with the same bindings and
credentials in some order. -/
structure SameEntries (t u : Table) : Prop where
  instances : t.instanceIds.Perm u.instanceIds
  bindings : ∀ i, Option.Rel List.Perm (Keyed.find? i t) (Keyed.find? i u)

theorem cell_of_find? (h : Keyed.find? i t = some bs) (b : Text) :
    t.cell i b = some (Keyed.find? b bs) := by
  rw [cell, h]
  rfl

theorem cell_of_not_live (h : ¬ t.Live i) (b : Text) : t.cell i b = none := by
  rw [cell, find?_of_not_live h]
  rfl

theorem live_iff_cell (b : Text) : t.Live i ↔ (t.cell i b).isSome = true := by
  rw [cell, Option.isSome_map]
  exact Keyed.has_iff.symm

theorem bound_iff_cell : t.Bound i b ↔ ∃ c, t.cell i b = some (some c) := by
  unfold cell
  cases found : Keyed.find? i t with
  | none =>
    rw [Bound, boundIds_of_not_live (not_live_of_find? found)]
    simp
  | some bs =>
    rw [bound_iff_of_find? found, ← Keyed.has_iff, Keyed.has, Option.isSome_iff_exists]
    simp

/-- **The cells** fix a table up to the order of its entries. -/
theorem sameEntries_of_cell (distinct : t.Distinct) (distinct' : u.Distinct)
    (same : ∀ i b, t.cell i b = u.cell i b) : t.SameEntries u where
  instances := by
    refine (List.perm_ext_iff_of_nodup distinct.instances distinct'.instances).mpr fun i => ?_
    exact (live_iff_cell []).trans (same i [] ▸ (live_iff_cell []).symm)
  bindings := by
    intro i
    cases found : Keyed.find? i t with
    | none =>
      have dead : Keyed.find? i u = none := by
        have cell := same i []
        rw [Table.cell, found, Table.cell] at cell
        exact Option.map_eq_none_iff.mp cell.symm
      rw [dead]
      exact .none
    | some bs =>
      have cells (b : Text) : u.cell i b = some (Keyed.find? b bs) :=
        (same i b).symm.trans (cell_of_find? found b)
      obtain ⟨bs', found', -⟩ := Option.map_eq_some_iff.mp (cells [])
      rw [found']
      refine .some (Keyed.perm_of_find? ?_ ?_ fun b => ?_)
      · rw [← boundIds_of_find? found]
        exact distinct.bindings i
      · rw [← boundIds_of_find? found']
        exact distinct'.bindings i
      · exact Option.some.inj ((cells b).symm.trans (cell_of_find? found' b))

end Table

/-! ## What an action looks at, and what it changes -/

namespace Action

/-- The binding that an action is about, if it is about one. -/
def bindingId? : Action → Option Text
  | provision _ | deprovision _ => none
  | bind _ b | unbind _ b => some b

/-- **Independent actions** are on different instances, or on different bindings. -/
def Independent (a b : Action) : Prop :=
  a.instanceId ≠ b.instanceId ∨
    ∃ x y, a.bindingId? = some x ∧ b.bindingId? = some y ∧ x ≠ y

/-- An action changes a cell: it is of its instance, and of its binding if it is about one. -/
def Changes (a : Action) (i b : Text) : Prop := i = a.instanceId ∧ ∀ x ∈ a.bindingId?, b = x

instance (a : Action) (i b : Text) : Decidable (a.Changes i b) :=
  inferInstanceAs (Decidable (_ ∧ _))

theorem Independent.symm {a b : Action} (h : Independent a b) : Independent b a := by
  rcases h with ne | ⟨x, y, hx, hy, ne⟩
  · exact .inl ne.symm
  · exact .inr ⟨y, x, hy, hx, ne.symm⟩

/-- Of independent actions, neither changes what the other one changes. -/
theorem Independent.not_changes {a b : Action} (h : Independent a b) {i c : Text}
    (changes : a.Changes i c) : ¬ b.Changes i c := by
  intro changes'
  rcases h with ne | ⟨x, y, hx, hy, ne⟩
  · exact ne (changes.1.symm.trans changes'.1)
  · exact ne ((changes.2 x hx).symm.trans (changes'.2 y hy))

end Action

namespace Memory

open Table

/-- **What a cell becomes** that an action changes. -/
def made (password : Text) : Action → Option (Option Credentials)
  | .provision _ => some none
  | .deprovision _ => none
  | .bind i b => some (some (Credentials.issue i b password))
  | .unbind _ _ => some none

/-- **The verdict** on an action, by the cell that it looks at, and by whether there is no room. -/
def verdict (full : Bool) : Action → Option (Option Credentials) → Except Sentinel Unit
  | .provision _, some _ => .error .instanceAlreadyExists
  | .provision _, none => if full then .error .instanceLimitReached else .ok ()
  | .deprovision _, none => .error .instanceDoesNotExist
  | .deprovision _, some _ => .ok ()
  | .bind _ _, none => .error .instanceDoesNotExist
  | .bind _ _, some (some _) => .error .bindingAlreadyExists
  | .bind _ _, some none => .ok ()
  | .unbind _ _, none => .error .instanceDoesNotExist
  | .unbind _ _, some none => .error .bindingDoesNotExist
  | .unbind _ _, some (some _) => .ok ()

variable {m : Memory} {p q : Text} {a b : Action} {t t' : Table} {i c : Text}

/-- Only the creation of an instance looks for room. -/
theorem verdict_congr {full full' : Bool} (same : a.operation = .provision → full = full')
    (cell : Option (Option Credentials)) : verdict full a cell = verdict full' a cell := by
  cases a with
  | provision i => rw [same rfl]
  | deprovision i => cases cell <;> rfl
  | bind i b | unbind i b => rcases cell with _ | _ | _ <;> rfl

/-- The cell that an action looks at: of its instance, and of its binding if it is about one. -/
def looksAt (a : Action) (t : Table) : Option (Option Credentials) :=
  t.cell a.instanceId (a.bindingId?.getD [])

/-- **Whether an action is carried out**, and why not, is seen in its cell. -/
theorem map_after_eq_verdict (m : Memory) (p : Text) (a : Action) (t : Table) :
    (m.after p a t).map (fun _ => ()) = verdict (t.isFull m.limit) a (looksAt a t) := by
  have effect := effect_after m p a t
  generalize m.after p a t = result at effect ⊢
  cases effect with
  | @occupied i live =>
    obtain ⟨bs, found⟩ := exists_find?_of_live live
    simp [looksAt, Action.instanceId, cell_of_find? found, verdict, Except.map]
  | noRoom dead full =>
    simp [looksAt, Action.instanceId, cell_of_not_live dead, verdict, Except.map, full]
  | provisioned dead room =>
    simp [looksAt, Action.instanceId, cell_of_not_live dead, verdict, Except.map, room]
  | gone dead => simp [looksAt, Action.instanceId, cell_of_not_live dead, verdict, Except.map]
  | deprovisioned live =>
    obtain ⟨bs, found⟩ := exists_find?_of_live live
    simp [looksAt, Action.instanceId, cell_of_find? found, verdict, Except.map]
  | bindNowhere dead | unbindNowhere dead =>
    simp [looksAt, Action.instanceId, cell_of_not_live dead, verdict, Except.map]
  | @alreadyBound i b bound =>
    obtain ⟨credentials, cell⟩ := bound_iff_cell.mp bound
    simp [looksAt, Action.instanceId, Action.bindingId?, cell, verdict, Except.map]
  | bound found unbound =>
    simp [looksAt, Action.instanceId, Action.bindingId?, cell_of_find? found,
      Keyed.find?_eq_none_iff.mpr unbound, verdict, Except.map]
  | notBound live unbound =>
    obtain ⟨bs, found⟩ := exists_find?_of_live live
    have missing := mt (bound_iff_of_find? found).mpr unbound
    simp [looksAt, Action.instanceId, Action.bindingId?, cell_of_find? found,
      Keyed.find?_eq_none_iff.mpr missing, verdict, Except.map]
  | @unbound i b bs found bound =>
    obtain ⟨credentials, cell⟩ := bound_iff_cell.mp ((bound_iff_of_find? found).mpr bound)
    simp [looksAt, Action.instanceId, Action.bindingId?, cell, verdict, Except.map]

/-- **An action that is carried out** changes its cells, and leaves all others. -/
theorem cell_after (h : t.Distinct) (done : m.after p a t = .ok t') (i c : Text) :
    t'.cell i c = if a.Changes i c then made p a else t.cell i c := by
  have effect := effect_after m p a t
  rw [done] at effect
  by_cases mine : i = a.instanceId
  · subst mine
    cases effect with
    | @provisioned i dead room =>
      simp [cell, Keyed.find?_append_self dead, Action.Changes, Action.bindingId?,
        Action.instanceId, made]
    | @deprovisioned i live =>
      simp [cell, Keyed.find?_erase_self h.instances, Action.Changes, Action.bindingId?,
        Action.instanceId, made]
    | @bound i b bs found unbound =>
      by_cases hc : c = b
      · subst hc
        simp [cell, Keyed.find?_put_self, Keyed.find?_append_self unbound, Action.Changes,
          Action.bindingId?, Action.instanceId, made]
      · simp [cell, Keyed.find?_put_self, Keyed.find?_append_of_ne hc, Action.Changes,
          Action.bindingId?, Action.instanceId, hc, found]
    | @unbound i b bs found bound =>
      have distinct : (Keyed.keys bs).Nodup := by
        rw [← boundIds_of_find? found]
        exact h.bindings i
      by_cases hc : c = b
      · subst hc
        simp [cell, Keyed.find?_put_self, Keyed.find?_erase_self distinct, Action.Changes,
          Action.bindingId?, Action.instanceId, made]
      · simp [cell, Keyed.find?_put_self, Keyed.find?_erase_of_ne hc, Action.Changes,
          Action.bindingId?, Action.instanceId, hc, found]
  · have kept := find?_next_of_ne m p t mine
    rw [next_of_ok done] at kept
    rw [if_neg fun changes => mine changes.1, cell, kept, cell]

/-- The cells after an action, whether it is carried out or refused. -/
theorem cell_next (h : t.Distinct) (m : Memory) (p : Text) (a : Action) (i c : Text) :
    (m.next p a t).cell i c =
      if a.Changes i c ∧ (m.after p a t).isOk = true then made p a else t.cell i c := by
  cases result : m.after p a t with
  | ok t' =>
    rw [next_of_ok result, cell_after h result]
    simp [Except.isOk, Except.toBool]
  | error e =>
    rw [next_of_error result]
    simp [Except.isOk, Except.toBool]

/-! ## One after the other -/

/-- The cell that an action looks at is one that it changes. -/
theorem changes_looksAt (a : Action) : a.Changes a.instanceId (a.bindingId?.getD []) := by
  refine ⟨rfl, fun x hx => ?_⟩
  rw [Option.mem_def.mp hx]
  rfl

/-- Neither the creation nor the removal of a binding changes how much room there is. -/
theorem isFull_next {x : Text} (about : b.bindingId? = some x) (limit : Nat) (q : Text)
    (t : Table) : (m.next q b t).isFull limit = t.isFull limit := by
  have same := instanceIds_next m q b t
  cases b with
  | provision | deprovision => cases about
  | bind | unbind =>
    rw [Bool.eq_iff_iff, isFull_iff, isFull_iff, same]

/-- **The verdict stays** when an independent action comes before, unless the room matters. -/
theorem map_after_next (h : t.Distinct) (independent : a.Independent b)
    (room : 0 < m.limit → a.operation = .provision → b.bindingId?.isSome = true) :
    ((m.after p a (m.next q b t)).map fun _ => ()) = (m.after p a t).map fun _ => () := by
  have seen : looksAt a (m.next q b t) = looksAt a t := by
    rw [looksAt, cell_next h, if_neg fun changed =>
      independent.not_changes (changes_looksAt a) changed.1, looksAt]
  rw [map_after_eq_verdict, map_after_eq_verdict, seen]
  refine verdict_congr (fun provision => ?_) _
  rcases Nat.eq_zero_or_pos m.limit with unlimited | limited
  · rw [unlimited]
    rfl
  · obtain ⟨x, about⟩ := Option.isSome_iff_exists.mp (room limited provision)
    exact isFull_next about _ _ _

/-- **The cells in the end** do not depend on the order of independent actions. -/
theorem cell_next_comm (h : t.Distinct) (independent : a.Independent b)
    (first : ((m.after p a (m.next q b t)).map fun _ => ()) = (m.after p a t).map fun _ => ())
    (second : ((m.after q b (m.next p a t)).map fun _ => ()) = (m.after q b t).map fun _ => ())
    (i c : Text) :
    (m.next q b (m.next p a t)).cell i c = (m.next p a (m.next q b t)).cell i c := by
  have isOk (r : Except Sentinel Table) : (r.map fun _ => ()).isOk = r.isOk := by cases r <;> rfl
  have first := congrArg Except.isOk first
  have second := congrArg Except.isOk second
  rw [isOk, isOk] at first second
  rw [cell_next (distinct_next h m p a), cell_next (distinct_next h m q b), cell_next h,
    cell_next h, first, second]
  by_cases mine : a.Changes i c
  · simp [mine, independent.not_changes mine]
  · simp [mine]

/-- **Independent actions commute.**  In every state that a broker reaches, two actions on
different instances, or two on different bindings of one instance, are answered the same in
either order, each with its own password; and the tables in the end have the same entries.  Where
there is a limit, this is said of the creation of an instance only together with the creation or
the removal of a binding. -/
theorem perform_comm (m : Memory) (passwords : Nat → Text) (calls : List Action) (a b : Action)
    (p q : Text) (independent : a.Independent b)
    (room : 0 < m.limit → (a.operation = .provision → b.bindingId?.isSome = true) ∧
      (b.operation = .provision → a.bindingId?.isSome = true)) :
    let s := m.run passwords calls fresh
    let first := m.perform (fun _ => p) a
    let second := m.perform (fun _ => q) b
    (first (second s).2).1 = (first s).1 ∧ (second (first s).2).1 = (second s).1 ∧
      (second (first s).2).2.table.SameEntries (first (second s).2).2.table := by
  intro s first second
  have distinct : s.table.Distinct := m.distinct_run passwords calls distinct_fresh
  have forA := map_after_next (p := p) (q := q) distinct independent fun limited =>
    (room limited).1
  have forB := map_after_next (p := q) (q := p) distinct independent.symm fun limited =>
    (room limited).2
  have answer {passwords : Nat → Text} {x : Action} {s s' : State}
      (password : passwords s.drawn = passwords s'.drawn)
      (same : ((m.after (passwords s.drawn) x s.table).map fun _ => ()) =
        (m.after (passwords s'.drawn) x s'.table).map fun _ => ()) :
      (m.perform passwords x s).1 = (m.perform passwords x s').1 := by
    have map (r : Except Sentinel Table) (v : Value) :
        (r.map fun _ => v) = (r.map fun _ => ()).map fun _ => v := by cases r <;> rfl
    rw [perform_answer, perform_answer, map, same, ← map, password]
  refine ⟨answer rfl ?_, answer rfl ?_, ?_⟩
  · rw [perform_table]
    exact forA
  · rw [perform_table]
    exact forB
  · simp only [first, second, perform_table]
    exact sameEntries_of_cell (distinct_next (distinct_next distinct m p a) m q b)
      (distinct_next (distinct_next distinct m q b) m p a)
      (cell_next_comm distinct independent forA forB)

/-- Two bindings are created on the only instance that there is room for.  The order shows in the
table, and in nothing else. -/
theorem perform_comm_bind :
    let m : Memory := ⟨.null, 1, []⟩
    let s := m.run (fun _ => []) [.provision "db"] fresh
    let first := m.perform (fun _ => "p") (.bind "db" "x")
    let second := m.perform (fun _ => "q") (.bind "db" "y")
    (Action.bind "db" "x").Independent (.bind "db" "y") ∧
      (second (first s).2).2.table ≠ (first (second s).2).2.table ∧
      (first (second s).2).1 = (first s).1 ∧ (second (first s).2).1 = (second s).1 ∧
        (second (first s).2).2.table.SameEntries (first (second s).2).2.table := by
  have independent : (Action.bind "db" "x").Independent (.bind "db" "y") :=
    .inr ⟨"x", "y", rfl, rfl, by decide⟩
  have commute := perform_comm ⟨.null, 1, []⟩ (fun _ => []) [.provision "db"] _ _ "p" "q"
    independent fun _ => ⟨fun _ => rfl, fun _ => rfl⟩
  exact ⟨independent, by decide +kernel, commute⟩

end Memory
end OpenBroker
