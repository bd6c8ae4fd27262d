import OpenBroker.Proofs.Ancestors

/-! # Loggers that are configured again and again

What a logger has of its own after any number of attempts to configure loggers is decided by the
attempts at it alone, and of these by those that succeed: its level is that of the latest, and its
handler came with the first (`own_logger_attempts`).  A level takes the place of an earlier one, but
a handler is only given to a logger that has none; so it makes no difference how many came between.

Attempts mention loggers, and so they change what loggers stand below.  But they leave them linked.
-/
namespace OpenBroker
namespace Log

/-- **The latest level** that a logger was given by calls, each of which names a logger and a
level. -/
def latest? (name : Text) : List (Text × Text) → Option Level
  | [] => none
  | (other, label) :: later =>
    (latest? name later).or (if shownName name = shownName other then Level.ofText? label else none)

variable {name other label : Text} {level : Level} {calls : List (Text × Text)}

/-- A latest level was given by a call. -/
theorem exists_of_latest? (latest : latest? name calls = some level) :
    ∃ c ∈ calls, shownName name = shownName c.1 ∧ Level.ofText? c.2 = some level := by
  induction calls with
  | nil => cases latest
  | cons c later ih =>
    rw [latest?, Option.or_eq_some_iff] at latest
    rcases latest with further | ⟨-, here⟩
    · obtain ⟨c', h, given⟩ := ih further
      exact ⟨c', List.mem_cons_of_mem _ h, given⟩
    · split at here
      · next same => exact ⟨c, List.mem_cons_self .., same, here⟩
      · cases here

/-- **A logger was given a level** just when a call for it succeeded. -/
theorem isSome_latest?_iff : (latest? name calls).isSome = true ↔
    ∃ c ∈ calls, shownName name = shownName c.1 ∧ (Level.ofText? c.2).isSome = true := by
  constructor
  · intro given
    obtain ⟨level, latest⟩ := Option.isSome_iff_exists.mp given
    obtain ⟨c, h, same, known⟩ := exists_of_latest? latest
    exact ⟨c, h, same, Option.isSome_iff_exists.mpr ⟨level, known⟩⟩
  · rintro ⟨c, h, same, known⟩
    induction calls with
    | nil => cases h
    | cons c' later ih =>
      rw [latest?, Option.isSome_or]
      rcases List.mem_cons.mp h with rfl | further
      · rw [if_pos same, known, Bool.or_true]
      · rw [ih further, Bool.true_or]

namespace Registry

variable {r : Registry}

/-- The registry after attempts to configure loggers, one after the other. -/
def attempts (r : Registry) (calls : List (Text × Text)) : Registry :=
  calls.foldl (fun r c => r.attempt c.1 c.2) r

/-! ## One attempt -/

theorem configure_of_known (r : Registry) (name : Text) (known : Level.ofText? label = some level) :
    r.configure name label = .ok (r.attempt name label) := by
  rw [attempt, configure, known]

/-- An attempt mentions the logger, and with a level that is known it gives it the level. -/
theorem attempt_cases (r : Registry) (name label : Text) :
    (Level.ofText? label = none ∧ r.attempt name label = r.mention name) ∨
      ∃ level, Level.ofText? label = some level ∧ r.attempt name label =
        (r.mention name).set name (((r.mention name).logger name).given level) := by
  unfold attempt configure
  cases Level.ofText? label with
  | none => exact .inl ⟨rfl, rfl⟩
  | some level => exact .inr ⟨level, rfl, rfl⟩

/-- **An attempt** gives the logger that it names the level that it names, if there is one, and
leaves the others what they have. -/
theorem own_logger_attempt (r : Registry) (other label name : Text) :
    ((r.attempt other label).logger name).own =
      (if shownName name = shownName other then Level.ofText? label else none).elim
        (r.logger name).own (r.logger name).own.given := by
  rcases r.attempt_cases other label with ⟨unknown, left⟩ | ⟨level, known, left⟩
  · rw [left, unknown, own_logger_mention, ite_self]
    rfl
  · rw [left, known, own_logger_set, Logger.own_given, own_logger_mention, own_logger_mention]
    split
    · next same =>
      rw [logger_congr same]
      rfl
    · rfl

theorem linked_attempt (linked : Linked r.named) (name label : Text) :
    Linked (r.attempt name label).named := by
  have mentioned := linked_mention linked name
  rcases r.attempt_cases name label with ⟨-, left⟩ | ⟨level, -, left⟩
  · rwa [left]
  · rw [left]
    exact linked_set mentioned (known_mention_self r name) rfl

theorem known_attempt_self (r : Registry) (name label : Text) :
    (r.attempt name label).Known name := by
  have mentioned := known_mention_self r name
  rcases r.attempt_cases name label with ⟨-, left⟩ | ⟨level, -, left⟩
  · rwa [left]
  · rw [left]
    exact mentioned.set mentioned _

theorem Known.attempt (known : r.Known name) (other label : Text) :
    (r.attempt other label).Known name := by
  have mentioned := known.mention other
  rcases r.attempt_cases other label with ⟨-, left⟩ | ⟨level, -, left⟩
  · rwa [left]
  · rw [left]
    exact mentioned.set (known_mention_self r other) _

/-! ## A run of attempts -/

theorem attempts_cons (r : Registry) (name label : Text) (later : List (Text × Text)) :
    r.attempts ((name, label) :: later) = (r.attempt name label).attempts later := rfl

/-- **After any attempts** a logger has what the latest that gave it a level would have made of it
at the start. -/
theorem own_logger_attempts (r : Registry) (calls : List (Text × Text)) (name : Text) :
    ((r.attempts calls).logger name).own =
      (latest? name calls).elim (r.logger name).own (r.logger name).own.given := by
  induction calls generalizing r with
  | nil => rfl
  | cons c later ih =>
    obtain ⟨other, label⟩ := c
    rw [attempts_cons, ih, own_logger_attempt, latest?]
    cases latest? name later with
    | none => rfl
    | some level =>
      -- what this attempt gave is given again
      cases if shownName name = shownName other then Level.ofText? label else none with
      | none => rfl
      | some earlier => exact Logger.given_given _ earlier level

/-- **The level after attempts** is the latest that was given, or the one that was there. -/
theorem level_attempts (r : Registry) (calls : List (Text × Text)) (name : Text) :
    ((r.attempts calls).logger name).level = (latest? name calls).getD (r.logger name).level := by
  have own := congrArg Logger.level (own_logger_attempts r calls name)
  refine Eq.trans own ?_
  cases latest? name calls <;> rfl

/-- **The handlers after attempts** at a logger without handlers: one if it was given a level. -/
theorem handlers_attempts (silent : (r.logger name).handlers = []) (calls : List (Text × Text)) :
    ((r.attempts calls).logger name).handlers =
      if (latest? name calls).isSome then [.writer] else [] := by
  have own := congrArg Logger.handlers (own_logger_attempts r calls name)
  refine Eq.trans own ?_
  have silent' : (r.logger name).own.handlers = [] := silent
  cases latest? name calls with
  | none => exact silent'
  | some level => exact if_pos (List.isEmpty_iff.mpr silent')

theorem linked_attempts (linked : Linked r.named) (calls : List (Text × Text)) :
    Linked (r.attempts calls).named := by
  induction calls generalizing r with
  | nil => exact linked
  | cons c later ih => exact ih (linked_attempt linked c.1 c.2)

theorem Known.attempts (known : r.Known name) (calls : List (Text × Text)) :
    (r.attempts calls).Known name := by
  induction calls generalizing r with
  | nil => exact known
  | cons c later ih => exact ih (known.attempt c.1 c.2)

theorem known_attempts_of_mem (r : Registry) (called : (name, label) ∈ calls) :
    (r.attempts calls).Known name := by
  induction calls generalizing r with
  | nil => cases called
  | cons c later ih =>
    rcases List.mem_cons.mp called with rfl | further
    · exact (known_attempt_self r name label).attempts later
    · exact ih _ further

/-- **Calls that succeed** are attempts. -/
theorem foldlM_configure (r : Registry) (known : ∀ c ∈ calls, (Level.ofText? c.2).isSome = true) :
    calls.foldlM (fun r c => r.configure c.1 c.2) r = .ok (r.attempts calls) := by
  induction calls generalizing r with
  | nil => rfl
  | cons c later ih =>
    obtain ⟨level, named⟩ := Option.isSome_iff_exists.mp (known c (List.mem_cons_self ..))
    rw [List.foldlM_cons, configure_of_known r c.1 named]
    exact ih _ fun c' h => known c' (List.mem_cons_of_mem _ h)

end Registry
end Log
end OpenBroker
