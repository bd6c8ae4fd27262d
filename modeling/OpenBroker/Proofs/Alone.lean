import OpenBroker.Proofs.Instance

/-! # Instances do not interfere

From a run take out all actions on other instances.  What is left is a run too, of an
instance **alone**, and as far as this instance goes it is the same run: its actions get the
same answers, and it ends up with the same bindings, in the same order and with the same
credentials.

Two things are shared by all instances.  One is the room: in the full run it may be missing
because of the others, so it is assumed that it never was; alone, the instance has no others
to take it (`Alone.accepted`).  The other is the stream of passwords, of which the full run
draws more.  So the run alone has a stream of its own, which supplies the passwords that the
full run drew for this instance (`drawnFor`).
-/
namespace OpenBroker
namespace Memory

open Table

variable (m : Memory) (passwords : Nat → Text) (i : Text)

/-- **The answers to the actions on one instance.** -/
def answersFor : List Action → State → List (Except Sentinel Value)
  | [], _ => []
  | a :: rest, s =>
    let s' := (m.perform passwords a s).2
    if a.instanceId = i then (m.perform passwords a s).1 :: answersFor rest s'
    else answersFor rest s'

/-- The password that an action draws, if it draws one. -/
def drawnBy (a : Action) (s : State) : List Text :=
  if s.drawn < (m.perform passwords a s).2.drawn then [passwords s.drawn] else []

/-- **The passwords that are drawn for one instance.** -/
def drawnFor : List Action → State → List Text
  | [], _ => []
  | a :: rest, s =>
    let s' := (m.perform passwords a s).2
    if a.instanceId = i then m.drawnBy passwords a s ++ drawnFor rest s' else drawnFor rest s'

variable {m passwords i} {passwords' : Nat → Text} {a : Action} {s s' : State}

/-- A broker without a limit refuses no provision for it. -/
theorem notMem_answers_of_unlimited (unlimited : m.limit = 0) (calls : List Action) (s : State) :
    .error .instanceLimitReached ∉ m.answers passwords calls s := by
  induction calls generalizing s with
  | nil => exact List.not_mem_nil
  | cons a rest ih =>
    rw [answers, List.mem_cons, not_or]
    refine ⟨?_, ih _⟩
    rw [perform_answer]
    have effect := effect_after m (passwords s.drawn) a s.table
    generalize m.after (passwords s.drawn) a s.table = result at effect ⊢
    cases effect with
    | noRoom dead full => exact absurd unlimited (isFull_iff.mp full).1
    | _ => exact fun h => nomatch h

/-! ## The run alone keeps up with the full run -/

/-- **Alone**: of the two tables, the second shows the same of the instance, and no other
instance. -/
structure Alone (i : Text) (t t' : Table) : Prop where
  found : Keyed.find? i t' = Keyed.find? i t
  others : ∀ j, t'.Live j → j = i
  distinct : t.Distinct
  distinct' : t'.Distinct

namespace Alone
variable {t t' : Table} {password : Text}

theorem fresh : Alone i fresh.table fresh.table where
  found := rfl
  others := fun _ live => nomatch live
  distinct := distinct_fresh
  distinct' := distinct_fresh

/-- Alone there is always room: whoever could take it is the instance itself. -/
theorem accepted (h : Alone i t t') (mine : a.instanceId = i) (m : Memory) (password : Text) :
    m.after password a t' ≠ .error .instanceLimitReached := by
  have effect := effect_after m password a t'
  generalize m.after password a t' = result at effect ⊢
  cases effect with
  | @noRoom j dead full =>
    obtain ⟨limited, reached⟩ := isFull_iff.mp full
    have nobody : t'.instanceIds = [] := by
      refine List.eq_nil_iff_forall_not_mem.mpr fun k live => dead ?_
      have same : k = j := (h.others k live).trans mine.symm
      exact same ▸ live
    rw [nobody, List.length_nil] at reached
    exact absurd (Nat.le_zero.mp reached) limited
  | _ => exact fun h => nomatch h

/-- An action on another instance happens in the full run only. -/
theorem skip (h : Alone i t t') (other : a.instanceId ≠ i) (m : Memory) (password : Text) :
    Alone i (m.next password a t) t' where
  found := by rw [find?_next_of_ne m password t (Ne.symm other), h.found]
  others := h.others
  distinct := distinct_next h.distinct m password a
  distinct' := h.distinct'

/-- An action on the instance is carried out in both runs or refused in both, and for the
same reason. -/
theorem map_after (h : Alone i t t') (mine : a.instanceId = i)
    (room : m.after password a t ≠ .error .instanceLimitReached) (password' : Text)
    (same : ∀ t₁, m.after password a t = .ok t₁ → draws a = 1 → password' = password) :
    (m.after password' a t').map (Keyed.find? i) = (m.after password a t).map (Keyed.find? i) := by
  have full := map_after_eq_own h.distinct room
  have alone := map_after_eq_own h.distinct' (h.accepted mine m password')
  rw [mine] at full alone
  rw [full, alone, h.found]
  refine own_congr fun v ok => ?_
  rw [← full] at ok
  cases result : m.after password a t with
  | ok t₁ => exact same t₁ result
  | error e =>
    rw [result] at ok
    cases ok

/-- **An action on the instance** happens in both runs. -/
theorem step {password' : Text} (h : Alone i t t') (mine : a.instanceId = i)
    (agree : (m.after password' a t').map (Keyed.find? i) =
      (m.after password a t).map (Keyed.find? i)) :
    Alone i (m.next password a t) (m.next password' a t') where
  found := by
    cases full : m.after password a t with
    | ok t₁ =>
      cases alone : m.after password' a t' with
      | ok t₂ =>
        rw [full, alone] at agree
        rw [next_of_ok full, next_of_ok alone]
        exact Except.ok.inj agree
      | error e =>
        rw [full, alone] at agree
        cases agree
    | error e =>
      cases alone : m.after password' a t' with
      | ok t₂ =>
        rw [full, alone] at agree
        cases agree
      | error e' => rw [next_of_error full, next_of_error alone, h.found]
  others := by
    intro j live
    rw [live_next h.distinct'] at live
    cases a with
    | provision k => exact live.elim (h.others j) fun created => created.1.trans mine
    | deprovision k => exact h.others j live.2
    | bind | unbind => exact h.others j live
  distinct := distinct_next h.distinct m password a
  distinct' := distinct_next h.distinct' m password' a

end Alone

/-- The passwords that are supplied after an action are those that were supplied for it and
for what follows, without the one that it draws. -/
theorem supplies_of_drawnBy {wanted : List Text} {n : Nat} {t : Table}
    {answer : Except Sentinel Value}
    (carried : m.perform passwords a s = (answer, ⟨t, s.drawn + draws a⟩))
    (supplied : Supplies passwords' n (m.drawnBy passwords a s ++ wanted)) :
    (draws a = 1 → passwords' n = passwords s.drawn) ∧
      Supplies passwords' (n + draws a) wanted := by
  unfold drawnBy at supplied
  rw [carried] at supplied
  cases a with
  | bind i b =>
    have drew : s.drawn < s.drawn + draws (.bind i b) := Nat.lt_succ_self _
    rw [if_pos drew, List.singleton_append, supplies_cons] at supplied
    exact ⟨fun _ => supplied.1, supplied.2⟩
  | provision | deprovision | unbind =>
    simp only [draws, Nat.add_zero, Nat.lt_irrefl, if_false, List.nil_append] at supplied
    exact ⟨nofun, supplied⟩

/-- What a success is answered with depends on the password only if one is drawn. -/
theorem success_congr {password password' : Text} (same : draws a = 1 → password' = password) :
    m.success password' a = m.success password a := by
  cases a with
  | bind i b => rw [same rfl]
  | provision | deprovision | unbind => rfl

/-- **An action on the instance** gets the same answer alone, and draws the same password. -/
theorem perform_alone {wanted : List Text} (h : Alone i s.table s'.table) (mine : a.instanceId = i)
    (room : (m.perform passwords a s).1 ≠ .error .instanceLimitReached)
    (supplied : Supplies passwords' s'.drawn (m.drawnBy passwords a s ++ wanted)) :
    (m.perform passwords' a s').1 = (m.perform passwords a s).1 ∧
      Alone i (m.perform passwords a s).2.table (m.perform passwords' a s').2.table ∧
      Supplies passwords' (m.perform passwords' a s').2.drawn wanted := by
  rw [perform_table, perform_table]
  rcases m.perform_cases passwords a s with ⟨t, full, hp⟩ | ⟨e, full, hp⟩
  · obtain ⟨same, later⟩ := supplies_of_drawnBy hp supplied
    have roomy : m.after (passwords s.drawn) a s.table ≠ .error .instanceLimitReached := by
      rw [full]
      exact nofun
    have agree := h.map_after mine roomy (passwords' s'.drawn) fun _ _ => same
    rcases m.perform_cases passwords' a s' with ⟨t', alone, hp'⟩ | ⟨e', alone, -⟩
    · rw [hp, hp']
      exact ⟨congrArg Except.ok (success_congr same), h.step mine agree, later⟩
    · rw [full, alone] at agree
      cases agree
  · have drew : m.drawnBy passwords a s = [] := by simp [drawnBy, hp]
    rw [drew, List.nil_append] at supplied
    have roomy : m.after (passwords s.drawn) a s.table ≠ .error .instanceLimitReached := by
      rw [hp] at room
      rw [full]
      exact fun refused => room (congrArg Except.error (Except.error.inj refused))
    have agree := h.map_after mine roomy (passwords' s'.drawn) fun t ok => by
      rw [full] at ok
      cases ok
    rcases m.perform_cases passwords' a s' with ⟨t', alone, -⟩ | ⟨e', alone, hp'⟩
    · rw [full, alone] at agree
      cases agree
    · rw [full, alone] at agree
      have reason : e' = e := Except.error.inj agree
      rw [hp, hp', reason]
      refine ⟨rfl, ?_, supplied⟩
      rw [← reason] at full
      exact h.step mine (by rw [full, alone])

/-- **A run alone** gives the answers that the full run gives for the instance, and leaves the
instance as the full run does. -/
theorem Alone.run (calls : List Action) (h : Alone i s.table s'.table)
    (room : .error .instanceLimitReached ∉ m.answers passwords calls s)
    (supplied : Supplies passwords' s'.drawn (m.drawnFor passwords i calls s)) :
    m.answersFor passwords i calls s =
        m.answers passwords' (calls.filter fun a => a.instanceId = i) s' ∧
      Alone i (m.run passwords calls s).table
        (m.run passwords' (calls.filter fun a => a.instanceId = i) s').table := by
  induction calls generalizing s s' with
  | nil => exact ⟨rfl, h⟩
  | cons a rest ih =>
    rw [answers, List.mem_cons, not_or] at room
    by_cases mine : a.instanceId = i
    · rw [drawnFor, if_pos mine] at supplied
      obtain ⟨answer, kept, later⟩ := perform_alone h mine (Ne.symm room.1) supplied
      obtain ⟨answers, last⟩ := ih kept room.2 later
      rw [List.filter_cons_of_pos (by simpa using mine), answersFor, if_pos mine, Memory.answers,
        answer, answers]
      exact ⟨rfl, last⟩
    · rw [drawnFor, if_neg mine] at supplied
      have kept : Alone i (m.perform passwords a s).2.table s'.table := by
        rw [perform_table]
        exact h.skip mine m _
      obtain ⟨answers, last⟩ := ih kept room.2 supplied
      rw [List.filter_cons_of_neg (by simpa using mine), answersFor, if_neg mine]
      exact ⟨answers, last⟩

/-- **Instances do not interfere.**  Take a run from the start in which no provision is
refused for the limit, as in every run of a broker without a limit.  Let the actions on one
instance be a run of their own, with a stream that supplies the passwords that were drawn for
this instance.  Then they get the same answers as before, and what is found of the instance at
the end is the same: whether it is there, with which bindings, in which order and with which
credentials. -/
theorem answersFor_and_find?_of_alone (m : Memory) (passwords passwords' : Nat → Text) (i : Text)
    (calls : List Action)
    (room : m.limit = 0 ∨ .error .instanceLimitReached ∉ m.answers passwords calls fresh)
    (supplied : Supplies passwords' 0 (m.drawnFor passwords i calls fresh)) :
    let own := calls.filter fun a => a.instanceId = i
    m.answers passwords' own fresh = m.answersFor passwords i calls fresh ∧
      Keyed.find? i (m.run passwords' own fresh).table =
        Keyed.find? i (m.run passwords calls fresh).table := by
  intro own
  have accepted : .error .instanceLimitReached ∉ m.answers passwords calls fresh :=
    room.elim (fun unlimited => notMem_answers_of_unlimited unlimited calls fresh) id
  obtain ⟨answers, last⟩ := Alone.fresh.run calls accepted supplied
  exact ⟨answers.symm, last.found⟩

/-- Two tenants of a broker with room for two.  The first has drawn a password before the
second draws any, so alone the second needs a stream that begins one place later. -/
theorem answersFor_and_find?_of_alone_two :
    let m : Memory := ⟨.null, 2, []⟩
    let calls : List Action := [.provision "a", .bind "a" "x", .provision "b", .bind "b" "x",
      .bind "b" "y", .deprovision "a", .provision "a", .bind "b" "y", .unbind "b" "x"]
    let passwords : Nat → Text := fun n => Text.replicate n 'p'
    let passwords' : Nat → Text := fun n => Text.replicate (n + 1) 'p'
    let own : List Action := [.provision "b", .bind "b" "x", .bind "b" "y", .bind "b" "y",
      .unbind "b" "x"]
    .error .instanceLimitReached ∉ m.answers passwords calls fresh ∧
      m.drawnFor passwords "b" calls fresh = [("p" : Text), ("pp" : Text)] ∧
      m.answers passwords' own fresh = m.answersFor passwords "b" calls fresh ∧
      Keyed.find? "b" (m.run passwords' own fresh).table =
        some [(("y" : Text), Credentials.issue "b" "y" "pp")] := by
  intro m calls passwords passwords' own
  have accepted : .error .instanceLimitReached ∉ m.answers passwords calls fresh := by
    have roomy : (m.answers passwords calls fresh).all
        (fun answer => !(answer matches .error .instanceLimitReached)) = true := by decide +kernel
    intro refused
    exact nomatch List.all_eq_true.mp roomy _ refused
  have drawn : m.drawnFor passwords "b" calls fresh = [("p" : Text), ("pp" : Text)] := by
    decide +kernel
  have supplied : Supplies passwords' 0 (m.drawnFor passwords "b" calls fresh) := by
    rw [drawn, supplies_cons, supplies_cons]
    exact ⟨rfl, rfl, supplies_nil⟩
  obtain ⟨answers, found⟩ := answersFor_and_find?_of_alone m passwords passwords' "b" calls
    (.inr accepted) supplied
  have kept : own = calls.filter fun a => a.instanceId = ("b" : Text) := by decide +kernel
  refine ⟨accepted, drawn, kept ▸ answers, ?_⟩
  rw [kept, found]
  decide +kernel

end Memory
end OpenBroker
