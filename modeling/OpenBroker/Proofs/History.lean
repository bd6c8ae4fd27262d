import Mathlib.Data.List.Dedup
import Mathlib.Data.List.DropRight
import OpenBroker.Proofs.Run

/-! # What a broker shows is what its history says

A history is enough to know which instances are live and which bindings are attached to
them, without any table.  An instance is live when the latest of its provisions and
deprovisions is a provision (`Live`).  A binding is attached to a live instance when,
since the latest provision of the instance, the latest of its bindings and unbindings is
a binding (`Attached`).  The live instances are listed in the order of their latest
provisions (`liveIds`), and the attached bindings in the order of their latest bindings
(`attachedIds`).

None of this mentions a table, so a re-created instance has no bindings because of where
`since` begins, and a removed and re-created entry stands at the end because its latest
creation does.  A memory broker agrees with it after every run: it shows the live
instances and the attached bindings in just this order, and it answers every action as
`answer` says.
-/
namespace OpenBroker
namespace History

/-- The latest action of a kind. -/
def latest (kind : Action → Bool) (h : History) : Option Action := (h.filter kind).getLast?

/-- The action provisions or deprovisions the instance. -/
def decidesInstance (i : Text) (a : Action) : Bool :=
  a = .provision i ∨ a = .deprovision i

/-- The action binds or unbinds the binding. -/
def decidesBinding (i b : Text) (a : Action) : Bool := a = .bind i b ∨ a = .unbind i b

/-- **Live**: the latest provision or deprovision is a provision. -/
def Live (h : History) (i : Text) : Prop := latest (decidesInstance i) h = some (.provision i)

/-- What happened since the latest provision of an instance. -/
def since (i : Text) (h : History) : History := h.rtakeWhile fun a => a ≠ .provision i

/-- **Attached** to a live instance: the latest bind or unbind since its latest provision
is a bind. -/
def Attached (h : History) (i b : Text) : Prop :=
  Live h i ∧ latest (decidesBinding i b) (since i h) = some (.bind i b)

instance (h : History) (i : Text) : Decidable (Live h i) :=
  inferInstanceAs (Decidable (latest (decidesInstance i) h = some (.provision i)))

instance (h : History) (i b : Text) : Decidable (Attached h i b) :=
  inferInstanceAs (Decidable
    (Live h i ∧ latest (decidesBinding i b) (since i h) = some (.bind i b)))

/-- The instance that an action provisions. -/
def provisioned? : Action → Option Text
  | .provision i => some i
  | _ => none

/-- The binding that an action creates on an instance. -/
def boundTo? (i : Text) : Action → Option Text
  | .bind j b => if j = i then some b else none
  | _ => none

/-- The texts that have a property, in the order of their latest mentions. -/
def inOrder (mentions : List Text) (p : Text → Prop) [DecidablePred p] : List Text :=
  mentions.dedup.filter fun x => p x

/-- **The live instances**, in the order of their latest provisions. -/
def liveIds (h : History) : List Text := inOrder (h.filterMap provisioned?) (Live h)

/-- **The bindings attached to an instance**, in the order of their latest bindings since
the latest provision of it. -/
def attachedIds (h : History) (i : Text) : List Text :=
  inOrder ((since i h).filterMap (boundTo? i)) (Attached h i)

/-- How many bindings were created. -/
def bindCount : History → Nat
  | [] => 0
  | a :: rest => Memory.draws a + bindCount rest

/-- **The answer to an action after a history**, with a password for the case that it
needs one. -/
def answer (m : Memory) (password : Text) (h : History) : Action → Except Sentinel Value
  | .provision i =>
    if Live h i then .error .instanceAlreadyExists
    else if 0 < m.limit ∧ m.limit ≤ (liveIds h).length then .error .instanceLimitReached
    else .ok (.text (m.dashboard i))
  | .deprovision i => if Live h i then .ok .null else .error .instanceDoesNotExist
  | .bind i b =>
    if ¬ Live h i then .error .instanceDoesNotExist
    else if Attached h i b then .error .bindingAlreadyExists
    else .ok (Memory.credentialsAnswer (Credentials.issue i b password))
  | .unbind i b =>
    if ¬ Live h i then .error .instanceDoesNotExist
    else if ¬ Attached h i b then .error .bindingDoesNotExist
    else .ok .null

/-! ## Orders -/

section Order
variable {mentions : List Text} {p q : Text → Prop} [DecidablePred p] [DecidablePred q] {x : Text}

theorem mem_inOrder : x ∈ inOrder mentions p ↔ x ∈ mentions ∧ p x := by
  simp [inOrder]

theorem nodup_inOrder : (inOrder mentions p).Nodup := (List.nodup_dedup _).filter _

theorem inOrder_congr (h : ∀ y, q y ↔ p y) : inOrder mentions q = inOrder mentions p :=
  List.filter_congr fun y _ => by simp [h y]

/-- What loses the property leaves its place. -/
theorem inOrder_of_lost (hx : ¬ q x) (h : ∀ y, y ≠ x → (q y ↔ p y)) :
    inOrder mentions q = (inOrder mentions p).erase x := by
  rw [nodup_inOrder.erase_eq_filter, inOrder, inOrder, List.filter_filter]
  refine List.filter_congr fun y _ => ?_
  by_cases hy : y = x
  · simp [hy, hx]
  · simp [hy, h y hy]

theorem dedup_concat (mentions : List Text) (x : Text) :
    (mentions ++ [x]).dedup = mentions.dedup.erase x ++ [x] := by
  induction mentions with
  | nil => simp
  | cons y rest ih =>
    rw [List.cons_append, List.dedup_cons, List.dedup_cons, ih]
    by_cases hy : y ∈ rest
    · simp [hy]
    · by_cases hx : y = x
      · subst hx
        have hn : y ∉ rest.dedup := by simpa using hy
        simp [hy, List.erase_of_not_mem hn]
      · simp [hy, hx, List.erase_cons_tail]

/-- What is mentioned once more, and has the property, stands at the end. -/
theorem inOrder_concat (hx : q x) (h : ∀ y, y ≠ x → (q y ↔ p y)) :
    inOrder (mentions ++ [x]) q = (inOrder mentions p).erase x ++ [x] := by
  rw [nodup_inOrder.erase_eq_filter]
  unfold inOrder
  rw [dedup_concat, List.filter_append, (List.nodup_dedup mentions).erase_eq_filter,
    List.filter_filter, List.filter_filter]
  congr 1
  · refine List.filter_congr fun y _ => ?_
    by_cases hy : y = x
    · simp [hy]
    · simp [h y hy, Bool.and_comm]
  · simp [hx]

end Order

variable {h : History} {i j b : Text}

/-! ## One more action -/

theorem latest_concat (kind : Action → Bool) (h : History) (a : Action) :
    latest kind (h ++ [a]) = if kind a = true then some a else latest kind h := by
  unfold latest
  by_cases ha : kind a = true <;> simp [List.filter_append, ha]

theorem live_concat (h : History) (a : Action) (j : Text) :
    Live (h ++ [a]) j ↔
      match a with
      | .provision i => j = i ∨ Live h j
      | .deprovision i => j ≠ i ∧ Live h j
      | .bind _ _ | .unbind _ _ => Live h j := by
  unfold Live
  rw [latest_concat]
  cases a with
  | provision i =>
    by_cases hj : j = i
    · simp [decidesInstance, hj]
    · simp [decidesInstance, hj, Ne.symm hj]
  | deprovision i =>
    by_cases hj : j = i
    · simp [decidesInstance, hj]
    · simp [decidesInstance, hj, Ne.symm hj]
  | bind | unbind => simp [decidesInstance]

theorem since_concat (j : Text) (h : History) (a : Action) :
    since j (h ++ [a]) = if a = .provision j then [] else since j h ++ [a] := by
  unfold since
  rw [List.rtakeWhile_concat]
  by_cases ha : a = .provision j <;> simp [ha]

/-- A binding is decided by what is done to it, and not to another. -/
theorem decidesBinding_of_ne {c : Text} (ne : ¬ (j = i ∧ c = b)) :
    decidesBinding j c (.bind i b) = false ∧ decidesBinding j c (.unbind i b) = false := by
  constructor
  all_goals
    simp only [decidesBinding, decide_eq_false_iff_not]
    rintro (he | he) <;> cases he
    exact ne ⟨rfl, rfl⟩

theorem attached_concat (h : History) (a : Action) (j c : Text) :
    Attached (h ++ [a]) j c ↔
      match a with
      | .provision i | .deprovision i => j ≠ i ∧ Attached h j c
      | .bind i b => (j = i ∧ c = b ∧ Live h i) ∨ Attached h j c
      | .unbind i b => ¬ (j = i ∧ c = b) ∧ Attached h j c := by
  unfold Attached
  rw [live_concat, since_concat]
  cases a with
  | provision i =>
    by_cases hj : j = i
    -- nothing has happened since a provision that comes last
    · simp [hj, latest]
    · simp [hj, Ne.symm hj, latest_concat, decidesBinding]
  | deprovision i => simp [latest_concat, decidesBinding, and_assoc]
  | bind i b =>
    rw [if_neg (by simp), latest_concat]
    by_cases hjc : j = i ∧ c = b
    · obtain ⟨rfl, rfl⟩ := hjc
      simp only [decidesBinding, true_or, decide_true, if_true, and_true, true_and]
      exact ⟨.inl, fun h => h.elim id And.left⟩
    · rw [(decidesBinding_of_ne hjc).1]
      constructor
      · exact .inr
      · rintro (⟨hj, hc, -⟩ | h)
        · exact absurd ⟨hj, hc⟩ hjc
        · exact h
  | unbind i b =>
    rw [if_neg (by simp), latest_concat]
    by_cases hjc : j = i ∧ c = b
    · obtain ⟨rfl, rfl⟩ := hjc
      simp [decidesBinding]
    · rw [(decidesBinding_of_ne hjc).2]
      simp [hjc]

/-- A creation puts the instance at the end, and a removal takes it out. -/
theorem liveIds_concat (h : History) (a : Action) :
    liveIds (h ++ [a]) =
      match a with
      | .provision i => (liveIds h).erase i ++ [i]
      | .deprovision i => (liveIds h).erase i
      | .bind _ _ | .unbind _ _ => liveIds h := by
  unfold liveIds
  rw [List.filterMap_append]
  cases a with
  | provision i =>
    refine inOrder_concat ?_ fun j hj => ?_
    · simp [live_concat]
    · simp [live_concat, hj]
  | deprovision i =>
    rw [show [Action.deprovision i].filterMap provisioned? = [] from rfl, List.append_nil]
    refine inOrder_of_lost ?_ fun j hj => ?_
    · simp [live_concat]
    · simp [live_concat, hj]
  | bind i b | unbind i b =>
    rw [List.filterMap_cons_none rfl, List.filterMap_nil, List.append_nil]
    exact inOrder_congr fun j => by simp [live_concat]

example : liveIds [.provision "a", .provision "b", .deprovision "a", .provision "a"] =
    [("b" : Text), ("a" : Text)] := by decide

theorem bindCount_concat (h : History) (a : Action) :
    bindCount (h ++ [a]) = bindCount h + Memory.draws a := by
  induction h with
  | nil => exact Nat.add_comm _ _
  | cons first rest ih => rw [List.cons_append, bindCount, bindCount, ih, Nat.add_assoc]

theorem mem_liveIds : i ∈ liveIds h ↔ Live h i := by
  rw [liveIds, mem_inOrder, and_iff_right_iff_imp]
  intro live
  have hm : Action.provision i ∈ h := (List.mem_filter.mp (List.mem_of_getLast? live)).1
  exact List.mem_filterMap.mpr ⟨_, hm, rfl⟩

theorem mem_attachedIds : b ∈ attachedIds h i ↔ Attached h i b := by
  rw [attachedIds, mem_inOrder, and_iff_right_iff_imp]
  intro attached
  have hm : Action.bind i b ∈ since i h :=
    (List.mem_filter.mp (List.mem_of_getLast? attached.2)).1
  exact List.mem_filterMap.mpr ⟨_, hm, by simp [boundTo?]⟩

theorem attachedIds_of_not_live (dead : ¬ Live h i) : attachedIds h i = [] :=
  List.eq_nil_iff_forall_not_mem.mpr fun _ hb => dead (mem_attachedIds.mp hb).1

/-- An action that neither provisions the instance nor binds anything to it leaves the
candidates for its bindings. -/
theorem candidates_concat {a : Action} (hp : a ≠ .provision j) (hb : boundTo? j a = none) :
    (since j (h ++ [a])).filterMap (boundTo? j) = (since j h).filterMap (boundTo? j) := by
  rw [since_concat, if_neg hp, List.filterMap_append, List.filterMap_cons_none hb,
    List.filterMap_nil, List.append_nil]

/-- A creation puts the binding at the end, a removal takes it out, and the creation or
removal of the instance leaves no bindings. -/
theorem attachedIds_concat (h : History) (a : Action) (j : Text) :
    attachedIds (h ++ [a]) j =
      match a with
      | .provision i | .deprovision i => if j = i then [] else attachedIds h j
      | .bind i b => if j = i ∧ Live h i then (attachedIds h j).erase b ++ [b] else attachedIds h j
      | .unbind i b => if j = i then (attachedIds h j).erase b else attachedIds h j := by
  cases a with
  | provision i =>
    by_cases hj : j = i
    · subst hj
      simp [attachedIds, since_concat, inOrder]
    · have hp : Action.provision i ≠ .provision j := by simpa using Ne.symm hj
      rw [attachedIds, candidates_concat hp rfl]
      simp only [hj, if_false]
      exact inOrder_congr fun c => by simp [attached_concat, hj]
  | deprovision i =>
    by_cases hj : j = i
    · subst hj
      have dead : ¬ Live (h ++ [.deprovision j]) j := by simp [live_concat]
      simpa using attachedIds_of_not_live dead
    · rw [attachedIds, candidates_concat (by simp) rfl]
      simp only [hj, if_false]
      exact inOrder_congr fun c => by simp [attached_concat, hj]
  | bind i b =>
    by_cases hj : j = i
    · subst hj
      by_cases live : Live h j
      -- a binding that was there before, and removed, is mentioned a second time
      · have hs : (since j (h ++ [.bind j b])).filterMap (boundTo? j) =
            (since j h).filterMap (boundTo? j) ++ [b] := by
          simp [since_concat, boundTo?]
        simp only [live, and_self, if_true]
        rw [attachedIds, hs]
        refine inOrder_concat ?_ fun c hc => ?_
        · simp [attached_concat, live]
        · simp [attached_concat, hc]
      · simp only [live, and_false, if_false]
        rw [attachedIds_of_not_live live,
          attachedIds_of_not_live (by simpa [live_concat] using live)]
    · have hb : boundTo? j (.bind i b) = none := by simp [boundTo?, Ne.symm hj]
      rw [attachedIds, candidates_concat (by simp) hb]
      simp only [hj, false_and, if_false]
      exact inOrder_congr fun c => by simp [attached_concat, hj]
  | unbind i b =>
    rw [attachedIds, candidates_concat (by simp) rfl]
    by_cases hj : j = i
    · simp only [hj, if_true]
      refine inOrder_of_lost ?_ fun c hc => ?_
      · simp [attached_concat]
      · simp [attached_concat, hc]
    · simp only [hj, if_false]
      exact inOrder_congr fun c => by simp [attached_concat, hj]

end History

namespace Memory

open History

variable {m : Memory} {passwords : Nat → Text}

/-- **A state as its history has it.** -/
structure Follows (h : History) (s : State) : Prop where
  live : s.table.instanceIds = liveIds h
  attached : ∀ i, s.table.boundIds i = attachedIds h i
  drawn : s.drawn = bindCount h
  distinct : s.table.Distinct

namespace Follows
variable {h : History} {s : State}

theorem live_iff (f : Follows h s) (i : Text) : s.table.Live i ↔ Live h i := by
  rw [Table.Live, f.live, mem_liveIds]

theorem bound_iff (f : Follows h s) (i b : Text) : s.table.Bound i b ↔ Attached h i b := by
  rw [Table.Bound, f.attached, mem_attachedIds]

theorem fresh : Follows [] Memory.fresh := ⟨rfl, fun _ => rfl, rfl, distinct_fresh⟩

/-- **The answer to an action** is the one that its history gives. -/
theorem answer (f : Follows h s) (a : Action) :
    (m.perform passwords a s).1 = History.answer m (passwords (bindCount h)) h a := by
  have full : s.table.isFull m.limit = true ↔ 0 < m.limit ∧ m.limit ≤ (liveIds h).length := by
    rw [Table.isFull_iff, f.live, Nat.pos_iff_ne_zero]
  rw [perform_answer, f.drawn]
  have effect := effect_after m (passwords (bindCount h)) a s.table
  generalize m.after (passwords (bindCount h)) a s.table = result at effect ⊢
  cases effect with
  | occupied live =>
    rw [f.live_iff] at live
    rw [History.answer, if_pos live]
    rfl
  | noRoom dead isFull =>
    rw [f.live_iff] at dead
    rw [History.answer, if_neg dead, if_pos (full.mp isFull)]
    rfl
  | provisioned dead room =>
    rw [f.live_iff] at dead
    have hn : ¬ (0 < m.limit ∧ m.limit ≤ (liveIds h).length) := by rw [← full, room]; simp
    rw [History.answer, if_neg dead, if_neg hn]
    rfl
  | gone dead =>
    rw [f.live_iff] at dead
    rw [History.answer, if_neg dead]
    rfl
  | deprovisioned live =>
    rw [f.live_iff] at live
    rw [History.answer, if_pos live]
    rfl
  | bindNowhere dead =>
    rw [f.live_iff] at dead
    rw [History.answer, if_pos dead]
    rfl
  | alreadyBound bound =>
    have live := (f.live_iff _).mp (Table.live_of_bound bound)
    rw [f.bound_iff] at bound
    rw [History.answer, if_neg (not_not_intro live), if_pos bound]
    rfl
  | bound found unbound =>
    have live := (f.live_iff _).mp (Table.live_of_find? found)
    rw [← Table.boundIds_of_find? found, f.attached, mem_attachedIds] at unbound
    rw [History.answer, if_neg (not_not_intro live), if_neg unbound]
    rfl
  | unbindNowhere dead =>
    rw [f.live_iff] at dead
    rw [History.answer, if_pos dead]
    rfl
  | notBound live unbound =>
    rw [f.live_iff] at live
    rw [f.bound_iff] at unbound
    rw [History.answer, if_neg (not_not_intro live), if_pos unbound]
    rfl
  | unbound found bound =>
    have live := (f.live_iff _).mp (Table.live_of_find? found)
    rw [← Table.boundIds_of_find? found, f.attached, mem_attachedIds] at bound
    rw [History.answer, if_neg (not_not_intro live), if_neg (not_not_intro bound)]
    rfl

/-- **A success** is one more entry of the history. -/
theorem step (f : Follows h s) (a : Action) {t : Table}
    (ok : m.after (passwords s.drawn) a s.table = .ok t) :
    Follows (h ++ [a]) ⟨t, s.drawn + draws a⟩ := by
  have next : m.next (passwords s.drawn) a s.table = t := next_of_ok ok
  have effect := effect_after m (passwords s.drawn) a s.table
  rw [ok] at effect
  refine ⟨?_, fun j => ?_, ?_, ?_⟩
  · have ids := instanceIds_next m (passwords s.drawn) a s.table
    rw [next] at ids
    rw [ids, liveIds_concat, ← f.live]
    cases effect with
    | provisioned dead room => simp [dead, room, List.erase_of_not_mem dead]
    | deprovisioned | bound | unbound => rfl
  · have ids := boundIds_next f.distinct m (passwords s.drawn) a j
    rw [next] at ids
    rw [ids, attachedIds_concat, ← f.attached]
    cases effect with
    | @provisioned i dead room =>
      by_cases hj : j = i
      · simp [hj, Table.boundIds_of_not_live dead]
      · simp [hj]
    | deprovisioned | unbound => rfl
    | @bound i b bs found unbound =>
      have live := Table.live_of_find? found
      -- the history erases an earlier place of the binding, and the table has none
      rw [← Table.boundIds_of_find? found] at unbound
      have notBound : ¬ s.table.Bound i b := unbound
      by_cases hj : j = i
      · subst hj
        simp [← f.live_iff, live, notBound, List.erase_of_not_mem unbound]
      · simp [hj]
  · rw [bindCount_concat, ← f.drawn]
  · rw [← next]
    exact distinct_next f.distinct m _ a

/-- A run keeps to its history, which grows by what the run does. -/
theorem run (calls : List Action) (f : Follows h s) :
    Follows (h ++ m.history passwords calls s) (m.run passwords calls s) := by
  induction calls generalizing h s with
  | nil => simpa [history] using f
  | cons a rest ih =>
    rcases m.perform_cases passwords a s with ⟨t, ok, hp⟩ | ⟨e, -, hp⟩
    · have grown := ih (f.step a ok)
      rw [List.append_assoc] at grown
      simpa [history, hp] using grown
    · simpa [history, hp] using ih f

end Follows

/-- **A memory broker shows and answers what its history says.**  After any run from the
start, and with `h` for the successes in it, every further action is answered by `h` alone
(and the next password, if it needs one), the live instances are shown in the order of
their latest provisions in `h`, and the bindings of a live instance in the order of their
latest bindings.  Both lists hold exactly what is live and attached, once. -/
theorem answers_and_observers_of_history (m : Memory) (passwords : Nat → Text)
    (earlier : List Action) :
    let h := m.history passwords earlier fresh
    let s := m.run passwords earlier fresh
    (∀ a, (m.perform passwords a s).1 = History.answer m (passwords (bindCount h)) h a) ∧
      s.table.instanceIds = liveIds h ∧
      (∀ i, s.table.bindingIds i =
        if Live h i then .ok (attachedIds h i) else .error .instanceDoesNotExist) ∧
      ((liveIds h).Nodup ∧ ∀ i, i ∈ liveIds h ↔ Live h i) ∧
      ∀ i, (attachedIds h i).Nodup ∧ ∀ b, b ∈ attachedIds h i ↔ Attached h i b := by
  intro h s
  have f : Follows h s := by simpa [h] using Follows.fresh.run (m := m) earlier
  refine ⟨f.answer, f.live, fun i => ?_, ⟨nodup_inOrder, fun i => mem_liveIds⟩,
    fun i => ⟨nodup_inOrder, fun b => mem_attachedIds⟩⟩
  rw [Table.bindingIds_eq, f.attached]
  simp only [f.live_iff]

end Memory
end OpenBroker
