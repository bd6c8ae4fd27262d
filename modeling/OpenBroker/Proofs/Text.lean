import Mathlib.Data.List.DropRight
import OpenBroker.Number.Literal
import OpenBroker.Text.Basic

/-!
# Texts at their ends and at separators

What is dropped at the ends of a text, and what a separator cuts it into.
-/
namespace OpenBroker

/-! ## Characters at the ends of a text

What is dropped at the end of a text is the longest row of characters of a class, so it does not
matter how many of them there were (`dropEndWhile_append_replicate`).

A text that is stripped has no blanks at its ends (`isBlank_head_strip`, `isBlank_last_strip`), so
stripping it again changes nothing, and neither does dropping fewer kinds of blanks
(`dropEndWhile_dropWhile_strip`).
-/

namespace Text

variable {p : CodePoint → Bool} {t : Text} {c : CodePoint}

/-! ### Dropping an end -/

/-- Behind what is left stands what was dropped. -/
theorem exists_eq_dropEndWhile_append (p : CodePoint → Bool) (t : Text) :
    ∃ dropped, t = dropEndWhile p t ++ dropped ∧ ∀ c ∈ dropped, p c = true :=
  ⟨t.rtakeWhile p, List.rdropWhile_append_rtakeWhile.symm, fun _ => List.mem_rtakeWhile_imp⟩

/-- The last character that is left is none that is dropped. -/
theorem of_getLast?_dropEndWhile (last : (dropEndWhile p t).getLast? = some c) : p c = false := by
  obtain ⟨nonempty, rfl⟩ := List.mem_getLast?_eq_getLast last
  exact Bool.eq_false_iff.mpr (List.rdropWhile_last_not p t nonempty)

/-- As many copies of a character as one likes are dropped at the end. -/
theorem dropEndWhile_append_replicate (drops : p c = true) (t : Text) (k : Nat) :
    dropEndWhile p (t ++ replicate k c) = dropEndWhile p t := by
  induction k with
  | zero => exact congrArg (dropEndWhile p) (List.append_nil t)
  | succ k ih =>
    have last : t ++ replicate (k + 1) c = (t ++ replicate k c) ++ [c] := by
      rw [replicate, List.replicate_succ', ← List.append_assoc]
      rfl
    rw [last]
    exact (List.rdropWhile_concat_pos p _ c drops).trans ih

/-! ### Blanks around a text -/

theorem isBlank_head_dropWhile {rest : Text} (h : t.dropWhile isBlank = c :: rest) :
    isBlank c = false := by
  have first := List.head?_dropWhile_not isBlank t
  rw [h] at first
  exact first

theorem strip_eq_nil_iff : strip t = [] ↔ ∀ c ∈ t, isBlank c = true := by
  have ends : strip t = [] ↔ ∀ c ∈ t.dropWhile isBlank, isBlank c = true :=
    List.rdropWhile_eq_nil_iff
  refine ends.trans ⟨fun rest => ?_, fun all c mem => all c (List.dropWhile_subset _ mem)⟩
  rw [← List.dropWhile_eq_nil_iff]
  cases left : t.dropWhile isBlank with
  | nil => rfl
  | cons c more =>
    have first := isBlank_head_dropWhile left
    rw [left] at rest
    rw [rest c (List.mem_cons_self ..)] at first
    cases first

/-- What is stripped begins with no blank. -/
theorem isBlank_head_strip {rest : Text} (h : strip t = c :: rest) : isBlank c = false := by
  have front : strip t <+: t.dropWhile isBlank := List.rdropWhile_prefix isBlank _
  rw [h] at front
  obtain ⟨more, whole⟩ := front
  exact isBlank_head_dropWhile whole.symm

/-- **What is stripped** has no blanks around it, of all kinds or of some. -/
theorem dropEndWhile_dropWhile_strip
    (some : ∀ c, p c = true → isBlank c = true) (t : Text) :
    dropEndWhile p ((strip t).dropWhile p) = strip t := by
  have front : (strip t).dropWhile p = strip t := by
    cases h : strip t with
    | nil => rfl
    | cons c rest =>
      refine List.dropWhile_cons_of_neg fun blank => ?_
      have visible := isBlank_head_strip h
      rw [some c blank] at visible
      cases visible
  rw [front]
  exact List.rdropWhile_eq_self_iff.mpr fun nonempty blank =>
    List.rdropWhile_last_not isBlank _ nonempty (some _ blank)

theorem strip_strip (t : Text) : strip (strip t) = strip t :=
  dropEndWhile_dropWhile_strip (fun _ blank => blank) t

theorem isBlank_of_isNumberBlank (h : isNumberBlank c = true) : isBlank c = true :=
  (Bool.and_eq_true_iff.mp h).1

/-- A number that is stripped has no blanks around it. -/
theorem trim_strip (t : Text) : Literal.trim (strip t) = strip t :=
  dropEndWhile_dropWhile_strip (fun _ => isBlank_of_isNumberBlank) t

/-- A text without blanks is not changed. -/
theorem strip_of_visible (visible : ∀ c ∈ t, isBlank c = false) : strip t = t := by
  have front : stripStart t = t := by
    cases t with
    | nil => rfl
    | cons c rest =>
      exact List.dropWhile_cons_of_neg (Bool.eq_false_iff.mp (visible c (List.mem_cons_self ..)))
  rw [strip, front]
  exact List.rdropWhile_eq_self_iff.mpr fun nonempty =>
    Bool.eq_false_iff.mp (visible _ (List.getLast_mem nonempty))

theorem isBlank_of_isAsciiDigit (digit : c.isAsciiDigit = true) : isBlank c = false := by
  have range := CodePoint.isAsciiDigit_iff.mp digit
  simp only [isBlank, Bool.or_eq_false_iff, Bool.and_eq_false_iff, decide_eq_false_iff_not,
    beq_eq_false_iff_ne]
  omega

end Text

/-! ## Texts that are cut

A text is cut at the first occurrence of a separator.  The parts put together again are the text,
whether the separator occurs or not (`eq_of_cut`).
-/

namespace Text

variable {separator c : CodePoint} {t before after : Text}

theorem cut_of_notMem (h : separator ∉ t) : cut separator t = (t, none) := by
  induction t with
  | nil => rfl
  | cons c rest ih =>
    rw [List.mem_cons, not_or] at h
    rw [cut, if_neg (Ne.symm h.1), ih h.2]

/-- What stands before a separator is cut off. -/
theorem cut_append (h : separator ∉ before) (after : Text) :
    cut separator (before ++ separator :: after) = (before, some after) := by
  induction before with
  | nil => rw [List.nil_append, cut, if_pos rfl]
  | cons c rest ih =>
    rw [List.mem_cons, not_or] at h
    rw [List.cons_append, cut, if_neg (Ne.symm h.1), ih h.2]

/-- **A cut** gives back the whole text, or its two sides. -/
theorem eq_of_cut (separator : CodePoint) (t : Text) :
    (separator ∉ t ∧ cut separator t = (t, none)) ∨
      ∃ before after, separator ∉ before ∧ t = before ++ separator :: after ∧
        cut separator t = (before, some after) := by
  induction t with
  | nil => exact .inl ⟨List.not_mem_nil, rfl⟩
  | cons c rest ih =>
    by_cases here : c = separator
    · refine .inr ⟨[], rest, List.not_mem_nil, ?_, if_pos here⟩
      rw [here, List.nil_append]
    rw [cut, if_neg here]
    rcases ih with ⟨none, same⟩ | ⟨before, after, notMem, rfl, same⟩
    · refine .inl ⟨?_, by rw [same]⟩
      rw [List.mem_cons, not_or]
      exact ⟨Ne.symm here, none⟩
    · refine .inr ⟨c :: before, after, ?_, rfl, by rw [same]⟩
      rw [List.mem_cons, not_or]
      exact ⟨Ne.symm here, notMem⟩

theorem cut_eq_some_iff : cut separator t = (before, some after) ↔
    t = before ++ separator :: after ∧ separator ∉ before := by
  constructor
  · intro h
    rcases eq_of_cut separator t with ⟨_, same⟩ | ⟨_, _, notMem, whole, same⟩
    · rw [same] at h
      cases h
    · rw [same] at h
      cases h
      exact ⟨whole, notMem⟩
  · rintro ⟨rfl, notMem⟩
    exact cut_append notMem after

end Text
end OpenBroker
