import OpenBroker.Proofs.Addressed
import OpenBroker.Proofs.Goal
import OpenBroker.Proofs.Printed
import OpenBroker.Proofs.Requests

/-! # The exit code of the client

A run of the client ends with zero if the status of the reply is one that the command takes for
success.  Over the memory broker that is a statement about the table (`Achievable`), for the
status that an action is answered with is prescribed by the table (`successes_iff`).  Removing
what is not there is taken for success and a refused creation is not, so zero says that the goal
of the command is reached, whether or not it was before, and one that nothing was changed.
-/
namespace OpenBroker

namespace Table

variable {t : Table}

/-- **Achievable**: an action that a command takes for a success, on a table with a limit. -/
def Achievable (limit : Nat) (t : Table) : Action → Prop
  | .provision i => ¬ t.Live i ∧ (0 < limit → t.instanceIds.length < limit)
  | .deprovision _ => True
  | .bind i b => t.Live i ∧ ¬ t.Bound i b
  | .unbind i _ => t.Live i

theorem isFull_iff_not {limit : Nat} :
    t.isFull limit = true ↔ ¬ (0 < limit → t.instanceIds.length < limit) := by
  rw [isFull_iff]
  omega

end Table

namespace Memory

open Table

variable {m : Memory} {password : Text} {a : Action} {t t' : Table}

/-- **The statuses of success** are those of achievable actions. -/
theorem successes_iff (m : Memory) (password : Text) (t : Table) (a : Action) :
    (Client.successes (.action a)).contains (m.prescribed password t a).status = true ↔
      t.Achievable m.limit a := by
  rw [prescribed_status_eq]
  cases a with
  | provision i =>
    by_cases live : t.Live i
    · simp [live, Client.successes, Achievable]
    by_cases full : t.isFull m.limit = true
    · have noRoom := isFull_iff_not.mp full
      exact iff_of_false (by simp [live, full, Client.successes]) fun h => noRoom h.2
    · have room := Classical.not_not.mp (mt isFull_iff_not.mpr full)
      exact iff_of_true (by simp [live, full, Client.successes]) ⟨live, room⟩
  | deprovision i => by_cases live : t.Live i <;> simp [live, Client.successes, Achievable]
  | bind i b | unbind i b =>
    by_cases live : t.Live i
    · by_cases bound : t.Bound i b <;> simp [live, bound, Client.successes, Achievable]
    · simp [live, Client.successes, Achievable]

/-- An achievable action that is refused has reached its goal before. -/
theorem goal_of_refused {e : Sentinel} (refused : m.after password a t = .error e)
    (achievable : t.Achievable m.limit a) : t.Goal a := by
  have effect := effect_after m password a t
  rw [refused] at effect
  cases effect with
  | occupied live => exact absurd live achievable.1
  | noRoom dead full => exact absurd achievable.2 (isFull_iff_not.mp full)
  | gone dead => exact dead
  | bindNowhere dead => exact absurd achievable.1 dead
  | alreadyBound bound => exact absurd bound achievable.2
  | unbindNowhere dead => exact absurd achievable dead
  | notBound live unbound => exact ⟨live, unbound⟩

/-- An action that is carried out is achievable. -/
theorem achievable_of_after (done : m.after password a t = .ok t') : t.Achievable m.limit a := by
  rw [← successes_iff m password, status_of_after done]
  cases a <;> rfl

/-- **What becomes of an action**: an achievable one leaves its goal, any other one nothing. -/
theorem perform_achievable (m : Memory) (passwords : Nat → Text) (a : Action) {s : State}
    (distinct : s.table.Distinct) :
    (s.table.Achievable m.limit a → (m.perform passwords a s).2.table.Goal a) ∧
      (¬ s.table.Achievable m.limit a → (m.perform passwords a s).2 = s) := by
  rcases m.perform_cases passwords a s with ⟨t, done, performed⟩ | ⟨e, refused, performed⟩
  · rw [performed]
    exact ⟨fun _ => goal_of_after distinct done, fun no => absurd (achievable_of_after done) no⟩
  · rw [performed]
    exact ⟨goal_of_refused refused, fun _ => rfl⟩

end Memory

/-! ## Replies that can be printed -/

namespace Client

open Http

/-- **A document is printed**, whatever is in it. -/
theorem exists_printed (status : Nat) (body : Text) :
    ∃ output, (ServerReply.ofReply (Reply.json status body)).printed = .ok output := by
  obtain ⟨t, shows, -⟩ := ServerReply.exists_shows_ofReply status body
  exact ⟨_, ServerReply.printed_of_shows shows⟩

/-! ## Runs -/

variable {a : Action}

/-- A document as the reply ends a run with the code for its status. -/
theorem ending_ofExchange (o : Order) (messages : List Message) (status : Nat) (body : Text) :
    (Result.ofExchange o (messages, .ok (.ofReply (Reply.json status body)))).ending =
      .ok (if (successes o.call).contains status then 0 else 1) := by
  obtain ⟨output, printed⟩ := exists_printed status body
  rw [Result.ofExchange, printed]
  rfl

/-- **A run over the memory broker** ends as the table prescribes, and performs the action. -/
theorem run_direct_memory (m : Memory) (passwords : Nat → Text) (s : Memory.State)
    {site : Url.Site} (k : Nat) (timeout : Binary64) (plain : ∀ id ∈ a.ids, IsPlainId id)
    (carried : ∀ id ∈ a.ids, site.Carries id) {env : Environment} {arguments : List Text}
    (read : readOrder env arguments =
      .ok (some ⟨site.text ++ Text.replicate k '/', timeout, .action a⟩)) :
    (run (direct (m.broker passwords)) env arguments s).1.ending =
        .ok (if (successes (.action a)).contains
          (m.prescribed (passwords s.drawn) s.table a).status then 0 else 1) ∧
      (run (direct (m.broker passwords)) env arguments s).2 = (m.perform passwords a s).2 := by
  obtain ⟨message, more, -, -, called⟩ :=
    exists_call_direct k timeout plain carried (m.broker passwords) s
  have answered : answered (.action a) ((m.broker passwords).answer (.action a) s).1 =
      (m.prescribed (passwords s.drawn) s.table a).served a :=
    Memory.answered_perform m passwords a s
  rw [run_of_readOrder read]
  dsimp only
  rw [called fun g => not_isReply_of_memory, answered]
  exact ⟨ending_ofExchange _ _ _ _, rfl⟩

/-- **The exit code tells the truth about the broker.**  In every state that the application
reaches, a command about plain identifiers that the site carries ends with zero if it is achievable,
and then its goal is reached; otherwise it ends with one, and nothing is changed. -/
theorem ending_and_goal_of_run (m : Memory) (passwords : Nat → Text) (earlier : List Request)
    (site : Url.Site) (k : Nat) (timeout : Binary64) (a : Action)
    (plain : ∀ id ∈ a.ids, IsPlainId id) (carried : ∀ id ∈ a.ids, site.Carries id)
    (env : Environment) (arguments : List Text)
    (read : readOrder env arguments =
      .ok (some ⟨site.text ++ Text.replicate k '/', timeout, .action a⟩)) :
    let s := (Http.run (m.broker passwords) earlier Memory.fresh).2
    let r := run (direct (m.broker passwords)) env arguments s
    (s.table.Achievable m.limit a → r.1.ending = .ok 0 ∧ r.2.table.Goal a) ∧
      (¬ s.table.Achievable m.limit a → r.1.ending = .ok 1 ∧ r.2 = s) := by
  intro s r
  have distinct : s.table.Distinct :=
    Memory.distinct_requests Memory.distinct_fresh m passwords earlier
  obtain ⟨ending, state⟩ := run_direct_memory m passwords s k timeout plain carried read
  have effect := Memory.perform_achievable m passwords a distinct
  have code := Memory.successes_iff m (passwords s.drawn) s.table a
  rw [← state] at effect
  constructor
  · intro achievable
    rw [if_pos (code.mpr achievable)] at ending
    exact ⟨ending, effect.1 achievable⟩
  · intro unachievable
    rw [if_neg (mt code.mp unachievable)] at ending
    exact ⟨ending, effect.2 unachievable⟩

/-- A broker with room for one instance is asked to remove a binding that was never there.  The
instance is, so the command has nothing to complain about. -/
theorem ending_and_goal_of_run_unbind :
    let m : Memory := ⟨.null, 1, []⟩
    let s := (Http.run (m.broker fun _ => [])
      [⟨"PUT", "/v2/service_instances/v2", []⟩] Memory.fresh).2
    let arguments : List Text := ["--broker-url", "https://[::1]:8080//", "unbind",
      "--instance-id", "v2", "--binding-id", "é"]
    let r := run (direct (m.broker fun _ => [])) [] arguments s
    (∀ id ∈ (Action.unbind "v2" "é").ids, IsPlainId id) ∧
      readOrder [] arguments =
        .ok (some ⟨"https://[::1]:8080//", defaultTimeout, .action (.unbind "v2" "é")⟩) ∧
      s.table.Achievable m.limit (.unbind "v2" "é") ∧
      r.1.ending = .ok 0 ∧ r.2.table.Goal (.unbind "v2" "é") := by
  have plain : ∀ id ∈ (Action.unbind "v2" "é").ids, IsPlainId id := by decide
  have carried : ∀ id ∈ (Action.unbind "v2" "é").ids, Url.Site.loopback.Carries id :=
    fun _ _ _ zone => absurd zone (by decide)
  have read : readOrder [] ["--broker-url", "https://[::1]:8080//", "unbind",
      "--instance-id", "v2", "--binding-id", "é"] =
      .ok (some ⟨Url.Site.loopback.text ++ Text.replicate 2 '/', defaultTimeout,
        .action (.unbind "v2" "é")⟩) := by rfl
  have live : (Http.run (Memory.broker ⟨.null, 1, []⟩ fun _ => [])
      [⟨"PUT", "/v2/service_instances/v2", []⟩] Memory.fresh).2.table.Live "v2" := by
    decide +kernel
  have result := ending_and_goal_of_run ⟨.null, 1, []⟩ (fun _ => [])
    [⟨"PUT", "/v2/service_instances/v2", []⟩] .loopback 2 _ _ plain carried [] _ read
  exact ⟨plain, read, live, result.1 live⟩

end Client
end OpenBroker
