import OpenBroker.Proofs.Attempts

/-! # How many lines a failure has

A failure is written by the logger it is given to, and once more by every configured logger above
it, since a message is passed on all the way to the root.  That a handler is given once to a logger
keeps the logger from writing a line twice; it does not keep another one from writing it again.  So
one failure is one line just when nothing above the logger was configured.

Before anything is configured there are no handlers (`Bare`), and after it those who have one are
those that were configured.  Levels decide nothing here, for all of them let errors pass.
-/
namespace OpenBroker
namespace Log

/-- **A level in words lets errors pass**: it names a level that is one, and not above theirs. -/
def LetsErrorsPass (label : Text) : Prop :=
  ∃ level, Level.ofText? label = some level ∧ level ≠ Level.unset ∧ level ≤ Severity.error.level

theorem LetsErrorsPass.isSome {label : Text} (passes : LetsErrorsPass label) :
    (Level.ofText? label).isSome = true :=
  have ⟨level, named, _⟩ := passes
  Option.isSome_iff_exists.mpr ⟨level, named⟩

/-- **Whether calls configure a logger**, by one of its names. -/
def configured (calls : List (Text × Text)) (name : Text) : Bool :=
  calls.any fun c => shownName name == shownName c.1

namespace Registry

variable {r : Registry} {name message : Text} {severity : Severity} {level : Level}
  {calls : List (Text × Text)} {count : Nat}

/-- **Bare**: no logger has a handler yet, and all stand in the tree of the names and pass messages
on. -/
structure Bare (r : Registry) : Prop where
  linked : Linked r.named
  silent : ∀ name, (r.logger name).handlers = []
  passing : ∀ name, (r.logger name).passesOn = true

theorem bare_initial : Bare initial := by
  refine ⟨linked_initial, fun name => ?_, fun name => ?_⟩
  all_goals
    cases root : isRoot name with
    | true => rw [logger_of_isRoot root]; rfl
    | false => rw [logger_of_not_isRoot root]; rfl

theorem Bare.mention (bare : Bare r) (new : Text) : Bare (r.mention new) := by
  refine ⟨linked_mention bare.linked new, fun name => ?_, fun name => ?_⟩
  · have kept := congrArg Logger.handlers (own_logger_mention r new name)
    exact Eq.trans kept (bare.silent name)
  · have kept := congrArg Logger.passesOn (own_logger_mention r new name)
    exact Eq.trans kept (bare.passing name)

/-! ## Who is reached -/

theorem passing_of_all {loggers : List Logger} (all : ∀ l ∈ loggers, l.passesOn = true) :
    passing loggers = loggers := by
  induction loggers with
  | nil => rfl
  | cons l rest ih =>
    obtain ⟨here, further⟩ := List.forall_mem_cons.mp all
    rw [passing, if_pos here, ih further]

/-- Where all pass messages on, and those that are marked have a writer. -/
theorem reached_eq_replicate {marked : Text → Bool} (passing : ∀ n, (r.logger n).passesOn = true)
    (writers : ∀ n, (r.logger n).handlers = if marked n then [.writer] else []) (name : Text) :
    r.reached name =
      List.replicate ((name :: r.ancestors name).countP marked) Handler.writer := by
  rw [reached, passing_of_all, chain_eq, List.flatMap_map]
  · induction name :: r.ancestors name with
    | nil => rfl
    | cons n rest ih =>
      rw [List.flatMap_cons, ih, List.countP_cons, writers]
      cases marked n with
      | true => rw [if_pos rfl, if_pos rfl]; exact List.replicate_succ.symm
      | false => rfl
  · intro l h
    rw [chain_eq] at h
    obtain ⟨n, -, rfl⟩ := List.mem_map.mp h
    exact passing n

/-- A level of its own is what counts for a logger. -/
theorem effectiveLevel_of_set (set : (r.logger name).level ≠ Level.unset) :
    r.effectiveLevel name = (r.logger name).level := by
  have own : ((r.logger name).level != Level.unset) = true := bne_iff_ne.mpr set
  simp only [effectiveLevel, chain_eq, List.map_cons, List.find?_cons, own, Option.getD_some]

/-- **Writers** write a message that is let pass, a line each. -/
theorem lines_of_writers (loud : r.effectiveLevel name ≤ severity.level)
    (writers : r.reached name = List.replicate (count + 1) Handler.writer) (message : Text) :
    r.lines name severity message =
      List.replicate (count + 1) (.formatted severity (shownName name) message) := by
  rw [lines, if_neg (Nat.not_lt.mpr loud), writers]
  exact List.map_replicate

/-! ## After calls -/

theorem Bare.passesOn_attempts (bare : Bare r) (calls : List (Text × Text)) (name : Text) :
    ((r.attempts calls).logger name).passesOn = true := by
  have own := congrArg Logger.passesOn (own_logger_attempts r calls name)
  refine Eq.trans own ?_
  cases latest? name calls <;> exact bare.passing name

theorem effectiveLevel_attempts (r : Registry) (latest : latest? name calls = some level)
    (set : level ≠ Level.unset) : (r.attempts calls).effectiveLevel name = level := by
  have effective := level_attempts r calls name
  rw [latest, Option.getD_some] at effective
  rw [effectiveLevel_of_set (effective ▸ set), effective]

/-- Where all levels are known, the loggers that calls configure are those that have a latest
level. -/
theorem configured_eq (known : ∀ c ∈ calls, (Level.ofText? c.2).isSome = true) (name : Text) :
    configured calls name = (latest? name calls).isSome := by
  rw [Bool.eq_iff_iff, isSome_latest?_iff, configured, List.any_eq_true]
  refine exists_congr fun c => and_congr_right fun called => ?_
  rw [beq_iff_eq]
  exact (and_iff_left (known c called)).symm

theorem known_attempts_of_configured (r : Registry) (addressed : configured calls name = true) :
    (r.attempts calls).Known name := by
  obtain ⟨c, called, same⟩ := List.any_eq_true.mp addressed
  rcases shownName_eq_iff.mp (eq_of_beq same) with ⟨root, -⟩ | rfl
  · exact .inl root
  · exact known_attempts_of_mem r called

/-- The level that counts for a configured logger lets errors pass. -/
theorem effectiveLevel_attempts_le (r : Registry) (levels : ∀ c ∈ calls, LetsErrorsPass c.2)
    (addressed : configured calls name = true) :
    (r.attempts calls).effectiveLevel name ≤ Severity.error.level := by
  rw [configured_eq fun c called => (levels c called).isSome] at addressed
  obtain ⟨level, latest⟩ := Option.isSome_iff_exists.mp addressed
  obtain ⟨c, called, -, named⟩ := exists_of_latest? latest
  obtain ⟨level', named', set, low⟩ := levels c called
  obtain rfl : level = level' := Option.some.inj (named.symm.trans named')
  rwa [effectiveLevel_attempts r latest set]

/-- **An error after calls** is written by its logger and by the configured ones above it. -/
theorem Bare.emit_attempts (bare : Bare r) (levels : ∀ c ∈ calls, LetsErrorsPass c.2)
    (addressed : configured calls name = true) (message : Text) :
    ((r.attempts calls).emit name .error message).1 =
      List.replicate (((r.attempts calls).ancestors name).countP (configured calls) + 1)
        (.formatted .error (shownName name) message) := by
  have writers (n : Text) : ((r.attempts calls).logger n).handlers =
      if configured calls n then [.writer] else [] := by
    rw [configured_eq fun c called => (levels c called).isSome]
    exact handlers_attempts (bare.silent n) calls
  have reached := reached_eq_replicate (bare.passesOn_attempts calls) writers name
  rw [List.countP_cons_of_pos addressed] at reached
  rw [emit, mention_of_known (known_attempts_of_configured r addressed)]
  exact lines_of_writers (effectiveLevel_attempts_le r levels addressed) reached message

/-- **One failure, a line from each configured logger upwards.**  No logger has a handler yet, and
calls configure some loggers, with levels that let errors pass.  Then the calls succeed, and an
error of a configured logger is written once by the logger, and once more by each configured one
among its ancestors.  So it is one line if and only if none of these was configured.  The ancestors
are as the names say, and every configured logger is known, so that it can be one. -/
theorem emit_error_of_configured (bare : Bare r) (levels : ∀ c ∈ calls, LetsErrorsPass c.2) :
    ∃ r', calls.foldlM (fun r c => r.configure c.1 c.2) r = .ok r' ∧
      ∀ name, configured calls name = true →
        r'.Known name ∧ AsNamed r' name ∧
        ∀ message,
          let line := Line.formatted .error (shownName name) message
          (r'.emit name .error message).1 =
            List.replicate ((r'.ancestors name).countP (configured calls) + 1) line ∧
          ((r'.emit name .error message).1 = [line] ↔
            ∀ n ∈ r'.ancestors name, configured calls n = false) := by
  refine ⟨r.attempts calls, foldlM_configure r fun c called => (levels c called).isSome, ?_⟩
  intro name addressed
  have linked := linked_attempts bare.linked calls
  refine ⟨known_attempts_of_configured r addressed, asNamed_of_linked linked name, ?_⟩
  intro message line
  have written : _ = List.replicate _ line := bare.emit_attempts levels addressed message
  refine ⟨written, ?_⟩
  rw [written, List.replicate_succ, List.cons.injEq, and_iff_right rfl, List.replicate_eq_nil_iff,
    List.countP_eq_zero]
  simp only [Bool.not_eq_true]

/-- The lower logger was there first, and the higher one came to stand above it. -/
theorem emit_error_of_configured_later :
    let calls : List (Text × Text) := [("broker.audit", "info"), ("broker", "WARN")]
    let line := Line.formatted .error "broker.audit" "boom"
    ∃ r, calls.foldlM (fun r c => r.configure c.1 c.2) (initial.mention "broker.audit") = .ok r ∧
      (r.emit "broker.audit" .error "boom").1 = [line, line] := by
  intro calls line
  have levels : ∀ c ∈ calls, LetsErrorsPass c.2 :=
    List.forall_mem_cons.mpr ⟨⟨20, rfl, by decide, by decide⟩,
      List.forall_mem_singleton.mpr ⟨30, rfl, by decide, by decide⟩⟩
  obtain ⟨r, done, all⟩ := emit_error_of_configured (bare_initial.mention "broker.audit") levels
  obtain ⟨-, -, lines⟩ := all "broker.audit" (by decide)
  refine ⟨r, done, (lines "boom").1.trans ?_⟩
  have above : (r.ancestors "broker.audit").countP (configured calls) = 1 := by
    cases done
    decide +kernel
  rw [above]
  rfl

/-- **Two lines** for one failure: both loggers were configured, and one stands above the other. -/
theorem exists_two_lines_of_nested :
    let calls : List (Text × Text) := [("broker", "INFO"), ("broker.audit", "INFO")]
    let line := Line.formatted .error "broker.audit" "boom"
    Bare initial ∧ (∀ c ∈ calls, LetsErrorsPass c.2) ∧ configured calls "broker.audit" = true ∧
      ∃ r, calls.foldlM (fun r c => r.configure c.1 c.2) initial = .ok r ∧
        (r.emit "broker.audit" .error "boom").1 = [line, line] ∧
        (r.emit "broker.audit" .error "boom").1 ≠ [line] := by
  intro calls line
  have level : LetsErrorsPass "INFO" := ⟨20, rfl, by decide, by decide⟩
  have levels : ∀ c ∈ calls, LetsErrorsPass c.2 :=
    List.forall_mem_cons.mpr ⟨level, List.forall_mem_singleton.mpr level⟩
  exact ⟨bare_initial, levels, by decide, _, rfl, by decide +kernel, by decide +kernel⟩

end Registry
end Log
end OpenBroker
