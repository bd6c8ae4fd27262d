import Mathlib.Data.List.TakeWhile
import OpenBroker.Json.Parser

/-! # Integers that are too long

A document is not read if there is an integer in it with more than `Literal.digitLimit` digits.
The reader reports how many digits it has, and they stand in the text, one behind the other
(`hasRun_of_read`): no other text is refused for this reason.

The readers are built from each other, and of each the same is known: what it leaves is an end
of its text, and what it refuses for its length stands in it (`Within`).
-/
namespace OpenBroker
namespace Json

/-- **A run** of so many digits stands in a text. -/
def HasRun (n : Nat) (t : Text) : Prop :=
  ∃ ds, ds <:+: t ∧ ds.length = n ∧ ∀ d ∈ ds, CodePoint.isAsciiDigit d = true

/-- **Within** the text is what a reader leaves behind, and the integer that it refuses. -/
def Within {α : Type} (s : Text) : Except Stop (α × Text) → Prop
  | .ok (_, rest) => rest <:+ s
  | .error (.fault _ _) => True
  | .error (.integerTooLong n) => Literal.digitLimit < n ∧ HasRun n s

variable {α β : Type} {s t rest : Text} {n : Nat}

theorem HasRun.mono (run : HasRun n s) (within : s <:+ t) : HasRun n t := by
  obtain ⟨ds, here, length, digits⟩ := run
  exact ⟨ds, here.trans within.isInfix, length, digits⟩

namespace Within

theorem mono {r : Except Stop (α × Text)} (h : Within s r) (within : s <:+ t) : Within t r := by
  cases r with
  | ok read => exact h.trans within
  | error stop =>
    cases stop with
    | fault => trivial
    | integerTooLong n => exact ⟨h.1, h.2.mono within⟩

/-- A reader that goes on with what another one left. -/
theorem bind {r : Except Stop (α × Text)} {f : α × Text → Except Stop (β × Text)}
    (h : Within s r) (further : ∀ a rest, Within rest (f (a, rest))) : Within s (r >>= f) := by
  cases r with
  | ok read => exact (further read.1 read.2).mono h
  | error stop => cases stop <;> exact h

end Within

theorem skip_suffix (s : Text) : skip s <:+ s := List.dropWhile_suffix _

/-- What is behind the first character that is no blank. -/
theorem suffix_of_skip {c : CodePoint} (h : skip s = c :: rest) : rest <:+ s :=
  (List.suffix_cons c rest).trans (h ▸ skip_suffix s)

/-! ## Strings and words -/

theorem within_consPoint {c : CodePoint} {r : Except Stop (Text × Text)} (h : Within s r) :
    Within s (consPoint c r) := by
  cases r with
  | ok read => exact h
  | error stop => cases stop <;> exact h

theorem within_stringPoints (start s : Text) : Within s (stringPoints start s) := by
  fun_induction stringPoints start s with
  | case1 | case3 | case4 | case6 | case7 | case9 => trivial
  | case2 s => exact List.suffix_cons _ s
  | case5 h₁ h₂ h₃ h₄ next r n _ _ _ ih =>
    exact (within_consPoint ih).mono (List.suffix_append [_, _, h₁, h₂, h₃, h₄] (next :: r))
  | case8 e s _ c _ _ _ ih => exact (within_consPoint ih).mono (List.suffix_append [_, e] s)
  | case10 c s _ _ _ ih => exact (within_consPoint ih).mono (List.suffix_cons c s)

theorem within_stringBody (start s : Text) : Within s (stringBody start s) := by
  have points := within_stringPoints start s
  unfold stringBody
  cases h : stringPoints start s with
  | ok read => rwa [h] at points
  | error stop =>
    rw [h] at points
    cases stop <;> exact points

theorem suffix_of_afterWord? {word : Text} (h : afterWord? word s = some rest) : rest <:+ s := by
  induction word generalizing s with
  | nil =>
    cases h
    exact List.suffix_refl _
  | cons w word ih =>
    cases s with
    | nil => cases h
    | cons c s =>
      rw [afterWord?] at h
      split at h
      · exact (ih h).trans (List.suffix_cons c s)
      · cases h

/-! ## Numbers -/

theorem append_digits (s : Text) :
    (digits s).1 ++ (digits s).2 = s ∧ ∀ d ∈ (digits s).1, CodePoint.isAsciiDigit d = true :=
  ⟨List.takeWhile_append_dropWhile, fun _ h => List.mem_takeWhile_imp h⟩

theorem digits_suffix (s : Text) : (digits s).2 <:+ s := List.dropWhile_suffix _

theorem append_of_wholePart? {whole : Text} (h : wholePart? s = some (whole, rest)) :
    whole ++ rest = s ∧ ∀ d ∈ whole, CodePoint.isAsciiDigit d = true := by
  cases s with
  | nil => cases h
  | cons c s =>
    rw [wholePart?] at h
    split at h
    · next zero =>
      cases h
      exact ⟨rfl, List.forall_mem_singleton.mpr (by rw [zero]; rfl)⟩
    · split at h
      · cases h
        exact append_digits (c :: s)
      · cases h

theorem fraction_suffix (s : Text) : (fraction s).2 <:+ s := by
  fun_cases fraction s with
  | case1 c d s => exact (digits_suffix (d :: s)).trans (List.suffix_cons c _)
  | case2 | case3 => exact List.suffix_refl _

theorem sign_suffix (s : Text) : (Literal.sign s).2 <:+ s := by
  fun_cases Literal.sign s with
  | case1 | case4 => exact List.suffix_refl _
  | case2 | case3 => exact List.suffix_cons _ _

theorem exponent_suffix (s : Text) : (exponent s).2 <:+ s := by
  unfold exponent
  cases s with
  | nil => exact List.suffix_refl _
  | cons c body =>
    dsimp only
    split
    · split
      · exact List.suffix_refl _
      · exact (digits_suffix _).trans ((sign_suffix body).trans (List.suffix_cons c body))
    · exact List.suffix_refl _

theorem within_number (s : Text) : Within s (number s) := by
  fun_cases number s
  case case1 => trivial
  case' case2 _ body sign whole after parts _ rest' fraction _ rest exponent _ long
      | case3 _ body sign whole after parts _ rest' fraction _ rest exponent _ _ _
      | case4 _ body sign whole after parts _ rest' fraction _ rest exponent _ =>
    have unsigned : body <:+ s := by
      repeat' split at sign
      all_goals cases sign
      exacts [List.suffix_cons _ _, List.suffix_refl _, List.suffix_refl _]
    obtain ⟨rfl, digits⟩ := append_of_wholePart? parts
    have last : rest <:+ rest' := by simpa only [exponent] using exponent_suffix rest'
    have middle : rest' <:+ after := by simpa only [fraction] using fraction_suffix after
    have behind : rest <:+ s :=
      last.trans (middle.trans ((List.suffix_append whole after).trans unsigned))
  case case2 =>
    have here : whole <:+: s := (List.prefix_append whole after).isInfix.trans unsigned.isInfix
    exact ⟨long, whole, here, rfl, digits⟩
  case case3 | case4 => exact behind

theorem within_scalar (s : Text) : Within s (scalar s) := by
  unfold scalar
  dsimp only
  split
  · next read found =>
    obtain ⟨w, -, here⟩ := List.exists_of_findSome?_eq_some found
    obtain ⟨rest, after, rfl⟩ := Option.map_eq_some_iff.mp here
    exact suffix_of_afterWord? after
  · exact within_number s

/-! ## Documents -/

section Readers

variable {fuel : Nat}

theorem within_value (items : ∀ s, Within s (items fuel s))
    (members : ∀ s, Within s (members fuel s)) (s : Text) : Within s (value (fuel + 1) s) := by
  cases s with
  | nil => trivial
  | cons c s =>
    have behind : s <:+ c :: s := List.suffix_cons c s
    rw [value]
    split
    · refine Within.mono ?_ behind
      exact (within_stringBody (c :: s) s).bind fun t rest => List.suffix_refl rest
    split
    · split
      · next d rest h =>
        have inside : d :: rest <:+ c :: s := (h ▸ skip_suffix s).trans behind
        split
        · exact (List.suffix_cons d rest).trans inside
        · refine Within.mono ?_ inside
          exact (members (d :: rest)).bind fun es rest => List.suffix_refl rest
      · trivial
    split
    · split
      · next d rest h =>
        have inside : d :: rest <:+ c :: s := (h ▸ skip_suffix s).trans behind
        split
        · exact (List.suffix_cons d rest).trans inside
        · refine Within.mono ?_ inside
          exact (items (d :: rest)).bind fun vs rest => List.suffix_refl rest
      · trivial
    · exact within_scalar (c :: s)

theorem within_items (value : ∀ s, Within s (value fuel s)) (items : ∀ s, Within s (items fuel s))
    (s : Text) : Within s (Json.items (fuel + 1) s) := by
  rw [Json.items]
  refine (value s).bind fun v rest => ?_
  dsimp only
  split
  · trivial
  · next c after h =>
    have inside := suffix_of_skip h
    split
    · exact inside
    split
    · refine Within.mono ?_ ((skip_suffix after).trans inside)
      exact (items (skip after)).bind fun vs rest => List.suffix_refl rest
    · trivial

theorem within_members (value : ∀ s, Within s (value fuel s))
    (members : ∀ s, Within s (members fuel s)) (s : Text) :
    Within s (Json.members (fuel + 1) s) := by
  cases s with
  | nil => trivial
  | cons q s =>
    rw [Json.members]
    split
    · refine Within.mono ?_ (List.suffix_cons q s)
      refine (within_stringBody (q :: s) s).bind fun key rest => ?_
      dsimp only
      split
      · trivial
      next c after h =>
      split
      · refine Within.mono ?_ ((skip_suffix after).trans (suffix_of_skip h))
        refine (value (skip after)).bind fun v rest => ?_
        dsimp only
        split
        · trivial
        next c' after' h' =>
        have inside := suffix_of_skip h'
        split
        · exact inside
        split
        · refine Within.mono ?_ ((skip_suffix after').trans inside)
          exact (members (skip after')).bind fun es rest => List.suffix_refl rest
        · trivial
      · trivial
    · trivial

theorem within_readers (fuel : Nat) : (∀ s, Within s (value fuel s)) ∧
    (∀ s, Within s (items fuel s)) ∧ ∀ s, Within s (members fuel s) := by
  -- all three at once, as each of them calls the others with one call less
  induction fuel with
  | zero => exact ⟨fun s => trivial, fun s => trivial, fun s => trivial⟩
  | succ fuel ih =>
    obtain ⟨value, items, members⟩ := ih
    exact ⟨within_value items members, within_items value items, within_members value members⟩

end Readers

theorem value_of_read (h : read t = .error (.integerTooLong n)) :
    value (2 * t.length + 2) (skip t) = .error (.integerTooLong n) := by
  unfold read at h
  cases t with
  | nil => cases h
  | cons c t =>
    dsimp only at h
    by_cases mark : c.val = 0xFEFF
    · rw [if_pos mark] at h
      cases h
    rw [if_neg mark] at h
    generalize value (2 * (c :: t).length + 2) (skip (c :: t)) = r at h ⊢
    cases r with
    | error stop =>
      cases stop with
      | fault => cases h
      | integerTooLong m =>
        cases h
        rfl
    | ok read =>
      dsimp only at h
      cases junk : skip read.2 <;> rw [junk] at h <;> cases h

/-- **An integer that is refused for its length** stands in the text, with all its digits. -/
theorem hasRun_of_read (h : read t = .error (.integerTooLong n)) :
    Literal.digitLimit < n ∧ HasRun n t := by
  have within := (within_readers (2 * t.length + 2)).1 (skip t)
  rw [value_of_read h] at within
  exact ⟨within.1, within.2.mono (skip_suffix t)⟩

end Json
end OpenBroker
