import OpenBroker.Log.Registry
import OpenBroker.Proofs.Keyed

/-! # What loggers have of their own

A logger has a level, handlers, and a way to treat its messages, and keeps them until it is
configured or watched itself (`own_logger_set`).  That other loggers come into being changes only
what it stands below (`own_logger_mention`).  A logger that was never mentioned has nothing, and
mentioning it gives it nothing.

The root has two names, and a logger is addressed by each of its names alike; two names are shown
alike just when they are of one logger (`shownName_eq_iff`).
-/
namespace OpenBroker
namespace Log

namespace Logger

/-- **What a logger has of its own**: everything but what it stands below. -/
def own (l : Logger) : Logger := { l with above := [] }

/-- **A logger that was given a level**, and a handler if it had none. -/
def given (l : Logger) (level : Level) : Logger :=
  { l with level := level, handlers := if l.handlers.isEmpty then [.writer] else l.handlers }

theorem own_given (l : Logger) (level : Level) : (l.given level).own = l.own.given level := rfl

/-- A level takes the place of an earlier one, and a handler is given once. -/
theorem given_given (l : Logger) (earlier level : Level) :
    (l.given earlier).given level = l.given level := by
  unfold given
  cases l.handlers <;> rfl

end Logger

namespace Registry

variable {r : Registry} {name other : Text} {l : Logger}

/-! ## Names of one logger -/

theorem ne_rootName_of_isRoot (h : isRoot name = false) : name ≠ rootName := by
  rintro rfl
  revert h
  decide

theorem shownName_eq_iff : shownName name = shownName other ↔
    (isRoot name = true ∧ isRoot other = true) ∨ name = other := by
  unfold shownName
  by_cases root : isRoot name = true
  · by_cases otherRoot : isRoot other = true
    · rw [if_pos root, if_pos otherRoot]
      exact iff_of_true rfl (.inl ⟨root, otherRoot⟩)
    · rw [if_pos root, if_neg otherRoot]
      refine iff_of_false (ne_rootName_of_isRoot (Bool.eq_false_iff.mpr otherRoot)).symm ?_
      rintro (⟨-, root'⟩ | rfl)
      · exact otherRoot root'
      · exact otherRoot root
  · by_cases otherRoot : isRoot other = true
    · rw [if_neg root, if_pos otherRoot]
      refine iff_of_false (ne_rootName_of_isRoot (Bool.eq_false_iff.mpr root)) ?_
      rintro (⟨root', -⟩ | rfl)
      · exact root root'
      · exact root otherRoot
    · rw [if_neg root, if_neg otherRoot]
      exact ⟨.inr, fun h => h.resolve_left fun h => root h.1⟩

theorem logger_of_isRoot (root : isRoot name = true) : r.logger name = r.root := if_pos root

theorem logger_of_not_isRoot (inner : isRoot name = false) :
    r.logger name = (Keyed.find? name r.named).getD (r.mentioned name) :=
  if_neg (Bool.eq_false_iff.mp inner)

/-- All names of a logger lead to it. -/
theorem logger_congr (same : shownName name = shownName other) :
    r.logger name = r.logger other := by
  rcases shownName_eq_iff.mp same with ⟨root, otherRoot⟩ | rfl
  · rw [logger_of_isRoot root, logger_of_isRoot otherRoot]
  · rfl

/-! ## Replacing a logger -/

theorem logger_set_self (r : Registry) (name : Text) (l : Logger) :
    (r.set name l).logger name = l := by
  unfold set logger
  by_cases root : isRoot name = true
  · rw [if_pos root, if_pos root]
  · rw [if_neg root, if_neg root, Keyed.find?_put_self]
    rfl

/-- **Replacing a logger** leaves all others what they have. -/
theorem own_logger_set (r : Registry) (other name : Text) (l : Logger) :
    ((r.set other l).logger name).own =
      if shownName name = shownName other then l.own else (r.logger name).own := by
  by_cases same : name = other
  · subst same
    rw [if_pos rfl, logger_set_self]
  unfold set
  simp only [shownName_eq_iff, same, or_false]
  by_cases otherRoot : isRoot other = true
  · rw [if_pos otherRoot]
    by_cases root : isRoot name = true
    · rw [if_pos ⟨root, otherRoot⟩, logger_of_isRoot root]
    · rw [if_neg fun both => root both.1, logger_of_not_isRoot (Bool.eq_false_iff.mpr root),
        logger_of_not_isRoot (Bool.eq_false_iff.mpr root)]
      rfl
  · rw [if_neg otherRoot, if_neg fun both => otherRoot both.2]
    by_cases root : isRoot name = true
    · rw [logger_of_isRoot root, logger_of_isRoot root]
    · rw [logger_of_not_isRoot (Bool.eq_false_iff.mpr root),
        logger_of_not_isRoot (Bool.eq_false_iff.mpr root), Keyed.find?_put_of_ne same]
      cases Keyed.find? name r.named <;> rfl

/-! ## Mentioning a logger -/

/-- **A logger is known** once it was mentioned; the root always is. -/
def Known (r : Registry) (name : Text) : Prop := isRoot name = true ∨ name ∈ Keyed.keys r.named

/-- A known logger is not mentioned anew. -/
theorem mention_of_known (known : r.Known name) : r.mention name = r :=
  if_pos (Bool.or_eq_true_iff.mpr (known.imp_right Keyed.has_iff.mpr))

theorem mention_of_new (new : ¬ r.Known name) :
    r.mention name = { r with
      named := Keyed.put name (r.mentioned name)
        (r.named.map fun e => (e.1, reparented name e.1 e.2)) } :=
  if_neg fun old => new ((Bool.or_eq_true_iff.mp old).imp_right Keyed.has_iff.mp)

theorem keys_map_reparented (new : Text) (named : Keyed Logger) :
    Keyed.keys (named.map fun e => (e.1, reparented new e.1 e.2)) = Keyed.keys named :=
  List.map_map

theorem keys_mention_of_new (new : ¬ r.Known name) :
    Keyed.keys (r.mention name).named = Keyed.keys r.named ++ [name] := by
  have unknown : name ∉ Keyed.keys (r.named.map fun e => (e.1, reparented name e.1 e.2)) :=
    fun h => new (.inr (keys_map_reparented name r.named ▸ h))
  rw [mention_of_new new, Keyed.put_of_notMem unknown, Keyed.keys_append, keys_map_reparented]
  rfl

theorem keys_set_of_known (known : r.Known name) (l : Logger) :
    Keyed.keys (r.set name l).named = Keyed.keys r.named := by
  unfold set
  by_cases root : isRoot name = true
  · rw [if_pos root]
  · rw [if_neg root, Keyed.keys_put_of_mem (known.resolve_left root)]

theorem known_mention_self (r : Registry) (name : Text) : (r.mention name).Known name := by
  by_cases known : r.Known name
  · rwa [mention_of_known known]
  · refine .inr ?_
    rw [keys_mention_of_new known]
    exact List.mem_append_right _ (List.mem_singleton_self name)

theorem Known.mention (known : r.Known name) (new : Text) : (r.mention new).Known name := by
  by_cases old : r.Known new
  · rwa [mention_of_known old]
  · refine known.imp_right fun h => ?_
    rw [keys_mention_of_new old]
    exact List.mem_append_left _ h

theorem Known.set (known : r.Known name) (replaced : r.Known other) (l : Logger) :
    (r.set other l).Known name :=
  known.imp_right fun h => (keys_set_of_known replaced l).symm ▸ h

theorem own_reparented (new name : Text) (l : Logger) : (reparented new name l).own = l.own := by
  unfold reparented
  split <;> rfl

theorem find?_map_reparented (new name : Text) (named : Keyed Logger) :
    Keyed.find? name (named.map fun e => (e.1, reparented new e.1 e.2)) =
      (Keyed.find? name named).map (reparented new name) := by
  induction named with
  | nil => rfl
  | cons e rest ih =>
    rw [List.map_cons, Keyed.find?, Keyed.find?]
    split
    · rename_i here
      rw [here]
      rfl
    · exact ih

/-- **Mentioning a logger** leaves every logger what it has. -/
theorem own_logger_mention (r : Registry) (new name : Text) :
    ((r.mention new).logger name).own = (r.logger name).own := by
  by_cases known : r.Known new
  · rw [mention_of_known known]
  · rw [mention_of_new known]
    by_cases root : isRoot name = true
    · rw [logger_of_isRoot root, logger_of_isRoot root]
    · rw [logger_of_not_isRoot (Bool.eq_false_iff.mpr root),
        logger_of_not_isRoot (Bool.eq_false_iff.mpr root)]
      by_cases self : name = new
      · subst self
        have unknown := Keyed.find?_eq_none_iff.mpr (not_or.mp known).2
        rw [Keyed.find?_put_self, unknown]
        rfl
      · rw [Keyed.find?_put_of_ne self, find?_map_reparented]
        cases Keyed.find? name r.named with
        | none => rfl
        | some l => exact own_reparented new name l

theorem level_logger_mention (r : Registry) (new name : Text) :
    ((r.mention new).logger name).level = (r.logger name).level := by
  have kept := congrArg Logger.level (own_logger_mention r new name)
  exact kept

/-! ## Configuring and watching -/

/-- **Configured**: a logger gets the level that is named. -/
theorem configure_of_ofText? {label : Text} {level : Level} (r : Registry) (name : Text)
    (known : Level.ofText? label = some level) :
    ∃ r', r.configure name label = .ok r' ∧ (r'.logger name).level = level := by
  rw [configure, known]
  refine ⟨_, rfl, ?_⟩
  rw [logger_set_self]

/-- **Watching a logger changes no level.** -/
theorem level_logger_watch (r : Registry) (own name : Text) :
    ((r.watch own).logger name).level = (r.logger name).level := by
  have kept := congrArg Logger.level (own_logger_set (r.mention own) own name
    { (r.mention own).logger own with handlers := [.collector], passesOn := false })
  refine kept.trans ?_
  split
  · next same =>
    rw [logger_congr same]
    exact level_logger_mention r own own
  · exact level_logger_mention r own name

end Registry
end Log
end OpenBroker
