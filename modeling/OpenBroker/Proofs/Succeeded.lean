import OpenBroker.Proofs.Lines

/-! # Loggers after calls of which some fail

Calls configure loggers one after the other, and a call fails if its level has no name.  What is
left of them in the end is what the calls that succeeded made, as if there had been no others
(`handlers_and_level_of_succeeded`): they gave one handler to each logger that they name, and the
last of them for a logger decides its level.

Whether a call succeeds depends on its level only, and not on what was called before
(`configure_cases`).  A call that fails mentions its logger, so it may change what loggers stand
below; but it changes no handler and no level (`own_logger_of_unknown`), and no logger is left
configured by half.
-/
namespace OpenBroker
namespace Log

/-- **A level in words is recognised**: in upper case it is the name of a level. -/
def Recognised (label : Text) : Prop := Text.upper label ∈ Level.names.map Prod.fst

instance (label : Text) : Decidable (Recognised label) :=
  inferInstanceAs (Decidable (Text.upper label ∈ Level.names.map Prod.fst))

/-- **The calls for a logger**, by one of its names. -/
def callsFor (name : Text) (calls : List (Text × Text)) : List (Text × Text) :=
  calls.filter fun c => shownName name = shownName c.1

variable {name label : Text} {calls : List (Text × Text)} {c : Text × Text}

theorem isSome_ofText?_iff : (Level.ofText? label).isSome = true ↔ Recognised label := by
  rw [Level.ofText?, Level.ofName?, List.lookup_isSome_iff, Recognised, List.mem_map]
  refine exists_congr fun entry => and_congr_right fun _ => ?_
  rw [beq_iff_eq, eq_comm]

theorem exists_ofText?_of_recognised (recognised : Recognised label) :
    ∃ level, Level.ofText? label = some level :=
  Option.isSome_iff_exists.mp (isSome_ofText?_iff.mpr recognised)

theorem ofText?_of_unknown (unknown : ¬ Recognised label) : Level.ofText? label = none :=
  Option.not_isSome_iff_eq_none.mp fun known => unknown (isSome_ofText?_iff.mp known)

theorem callsFor_cons_self (same : shownName name = shownName c.1) (later : List (Text × Text)) :
    callsFor name (c :: later) = c :: callsFor name later :=
  List.filter_cons_of_pos (decide_eq_true same)

theorem callsFor_cons_other (apart : shownName name ≠ shownName c.1)
    (later : List (Text × Text)) : callsFor name (c :: later) = callsFor name later :=
  List.filter_cons_of_neg fun same => apart (of_decide_eq_true same)

namespace Registry

variable {r : Registry}

/-- **The calls that succeed**, of some that are made one after the other. -/
def succeeded (r : Registry) : List (Text × Text) → List (Text × Text)
  | [] => []
  | c :: later =>
    match r.configure c.1 c.2 with
    | .ok r' => c :: r'.succeeded later
    | .error _ => (r.attempt c.1 c.2).succeeded later

/-! ## Calls that fail -/

/-- **A call fails** just when its level is not recognised, with a failure that shows it. -/
theorem configure_cases (r : Registry) (name label : Text) :
    (Recognised label ∧ r.configure name label = .ok (r.attempt name label)) ∨
      (¬ Recognised label ∧ r.configure name label = .error (.standard "ValueError"
        ("Unknown level: " ++ Text.quoted ("Level " ++ Text.upper label)))) := by
  by_cases recognised : Recognised label
  · obtain ⟨level, named⟩ := exists_ofText?_of_recognised recognised
    exact .inl ⟨recognised, configure_of_known r name named⟩
  · refine .inr ⟨recognised, ?_⟩
    rw [configure, ofText?_of_unknown recognised]
    rfl

/-- **A call that fails** leaves every logger what it has. -/
theorem own_logger_of_unknown (unknown : ¬ Recognised label) (r : Registry) (name other : Text) :
    ((r.attempt name label).logger other).own = (r.logger other).own := by
  rw [own_logger_attempt, ofText?_of_unknown unknown, ite_self]
  rfl

/-! ## Calls that succeed -/

theorem succeeded_cons_of_recognised (recognised : Recognised c.2) (r : Registry)
    (later : List (Text × Text)) :
    r.succeeded (c :: later) = c :: (r.attempt c.1 c.2).succeeded later := by
  rcases r.configure_cases c.1 c.2 with ⟨-, done⟩ | ⟨unknown, -⟩
  · rw [succeeded, done]
  · exact absurd recognised unknown

theorem succeeded_cons_of_unknown (unknown : ¬ Recognised c.2) (r : Registry)
    (later : List (Text × Text)) :
    r.succeeded (c :: later) = (r.attempt c.1 c.2).succeeded later := by
  rcases r.configure_cases c.1 c.2 with ⟨recognised, -⟩ | ⟨-, failed⟩
  · exact absurd recognised unknown
  · rw [succeeded, failed]

theorem recognised_of_mem_succeeded (listed : c ∈ r.succeeded calls) : Recognised c.2 := by
  induction calls generalizing r with
  | nil => cases listed
  | cons c' later ih =>
    by_cases recognised : Recognised c'.2
    · rw [succeeded_cons_of_recognised recognised] at listed
      rcases List.mem_cons.mp listed with rfl | further
      · exact recognised
      · exact ih further
    · rw [succeeded_cons_of_unknown recognised] at listed
      exact ih listed

theorem recognised_of_getLast? (last : (callsFor name (r.succeeded calls)).getLast? = some c) :
    Recognised c.2 :=
  recognised_of_mem_succeeded (List.mem_filter.mp (List.mem_of_getLast? last)).1

/-- **The last call that succeeds** for a logger gives it its latest level. -/
theorem latest?_eq (r : Registry) (name : Text) (calls : List (Text × Text)) :
    latest? name calls =
      (callsFor name (r.succeeded calls)).getLast?.bind fun c => Level.ofText? c.2 := by
  induction calls generalizing r with
  | nil => rfl
  | cons c later ih =>
    rw [latest?, ih (r.attempt c.1 c.2)]
    by_cases recognised : Recognised c.2
    · rw [succeeded_cons_of_recognised recognised]
      by_cases same : shownName name = shownName c.1
      · rw [callsFor_cons_self same, if_pos same, List.getLast?_cons]
        cases last : (callsFor name ((r.attempt c.1 c.2).succeeded later)).getLast? with
        | none => rfl
        | some d =>
          -- a later call for the logger succeeds, and this one does not count any more
          obtain ⟨level, named⟩ := exists_ofText?_of_recognised (recognised_of_getLast? last)
          rw [Option.getD_some, Option.bind_some, named, Option.some_or]
      · rw [callsFor_cons_other same, if_neg same, Option.or_none]
    · rw [succeeded_cons_of_unknown recognised, ofText?_of_unknown recognised, ite_self,
        Option.or_none]

/-- **Loggers after any calls.**  No logger has a handler yet, and calls are made, whatever the
names and the levels in them.  Then a logger for which no call succeeded still has no handler, and
the level that it had.  Any other logger has one handler, and the level of the last call for it
that succeeded.  And whenever a call is made after these, it succeeds if its level is recognised;
if not, it fails with a failure that shows the level, and all loggers keep their handlers and their
levels. -/
theorem handlers_and_level_of_succeeded (silent : ∀ name, (r.logger name).handlers = [])
    (calls : List (Text × Text)) :
    let r' := r.attempts calls
    (∀ name,
      (callsFor name (r.succeeded calls) = [] →
        (r'.logger name).handlers = [] ∧ (r'.logger name).level = (r.logger name).level) ∧
      ∀ c, (callsFor name (r.succeeded calls)).getLast? = some c →
        (r'.logger name).handlers = [.writer] ∧
          Level.ofText? c.2 = some (r'.logger name).level) ∧
    ∀ name label,
      let r'' := r.attempts (calls ++ [(name, label)])
      (Recognised label → r'.configure name label = .ok r'') ∧
      (¬ Recognised label →
        r'.configure name label = .error (.standard "ValueError"
          ("Unknown level: " ++ Text.quoted ("Level " ++ Text.upper label))) ∧
        ∀ other, (r''.logger other).handlers = (r'.logger other).handlers ∧
          (r''.logger other).level = (r'.logger other).level) := by
  intro r'
  constructor
  · intro name
    have handlers := handlers_attempts (silent name) calls
    have level := level_attempts r calls name
    have latest := latest?_eq r name calls
    constructor
    · intro none
      rw [none] at latest
      rw [latest] at handlers level
      exact ⟨handlers, level⟩
    · intro c last
      obtain ⟨given, named⟩ := exists_ofText?_of_recognised (recognised_of_getLast? last)
      rw [last, Option.bind_some, named] at latest
      rw [latest] at handlers level
      exact ⟨handlers, named.trans (congrArg some level.symm)⟩
  · intro name label r''
    have further : r'' = r'.attempt name label := List.foldl_append
    rw [further]
    rcases r'.configure_cases name label with ⟨recognised, done⟩ | ⟨unknown, failed⟩
    · exact ⟨fun _ => done, fun unknown => absurd recognised unknown⟩
    · refine ⟨fun recognised => absurd recognised unknown, fun _ => ⟨failed, fun other => ?_⟩⟩
      have kept := own_logger_of_unknown unknown r' name other
      have handlers := congrArg Logger.handlers kept
      have level := congrArg Logger.level kept
      exact ⟨handlers, level⟩

/-- Two calls for the root, by both of its names, and between them one for another logger that
fails.  The root has one handler and the level of the second call; the other logger was mentioned,
and that is all. -/
theorem handlers_and_level_of_succeeded_root :
    let calls : List (Text × Text) := [("root", "debug"), ("broker", "loud"), ("", "Warn")]
    let r := initial.attempts calls
    (∀ name, (initial.logger name).handlers = []) ∧
      (r.logger "root").handlers = [.writer] ∧ (r.logger "root").level = 30 ∧
      (r.logger "broker").handlers = [] ∧ (r.logger "broker").level = Level.unset ∧
      (∃ f, r.configure "broker" "loud" = .error f) ∧
      ∃ r', r.configure "broker" "fatal" = .ok r' := by
  intro calls r
  have silent := bare_initial.silent
  obtain ⟨loggers, further⟩ := handlers_and_level_of_succeeded silent calls
  have root : (callsFor "root" (initial.succeeded calls)).getLast? =
      some (([] : Text), ("Warn" : Text)) := by decide +kernel
  obtain ⟨handlers, level⟩ := (loggers "root").2 _ root
  obtain ⟨noHandlers, noLevel⟩ := (loggers "broker").1 (by decide +kernel)
  have loud := (further "broker" "loud").2 (by decide +kernel)
  have fatal := (further "broker" "fatal").1 (by decide +kernel)
  exact ⟨silent, handlers, (Option.some.inj level).symm, noHandlers, noLevel, ⟨_, loud.1⟩, _, fatal⟩

end Registry
end Log
end OpenBroker
