import OpenBroker.Json.Basic
import OpenBroker.Json.Parser

/-! # Strings of documents are read back

A written string is read in two steps.  First every escape is read by itself
(`stringPoints_escapedPoint`): a code point beyond the first plane was written as the two
halves of a surrogate pair, so that is what is read (`halves`).  Then halves that stand side by
side are joined.  This gives the code points again, unless halves stood side by side in the string
before (`joinHalves_flatMap`): those are joined too, and the string that is read is a shorter one
(`joinHalves_eq_self_iff`).
-/
namespace OpenBroker

variable {n : Nat} {c : CodePoint} {start s t points rest : Text}

theorem CodePoint.hexValue?_hexDigit : ∀ n : Fin 16, hexValue? (hexDigit n) = some n.val := by
  decide

namespace Json

/-! ## Escapes -/

/-- Four hexadecimal digits are read as the number that they were written for. -/
theorem hex4?_hex (small : n < 0x10000) :
    ∃ a b c d, Text.hex 4 n = [a, b, c, d] ∧ hex4? a b c d = some n := by
  have digit (k : Nat) : CodePoint.hexValue? (CodePoint.hexDigit (k % 16)) = some (k % 16) :=
    CodePoint.hexValue?_hexDigit ⟨k % 16, Nat.mod_lt _ (by decide)⟩
  refine ⟨_, _, _, _, rfl, ?_⟩
  simp only [hex4?, digit, Option.bind_eq_bind, Option.bind_some, Option.some.injEq]
  simp only [Nat.pow_eq, Nat.reducePow]
  omega

theorem stringPoints_quote (start rest : Text) :
    stringPoints start (CodePoint.ofChar '"' :: rest) = .ok ([], rest) := by
  rw [stringPoints.eq_def]
  dsimp only
  rw [if_pos rfl]

theorem stringPoints_plain (noQuote : c ≠ '"') (noEscape : c ≠ '\\') (noControl : 0x20 ≤ c.val) :
    stringPoints start (c :: s) = consPoint c (stringPoints start s) := by
  rw [stringPoints.eq_def start (c :: s)]
  dsimp only
  rw [if_neg noQuote, if_neg (Nat.not_lt.mpr noControl), if_neg noEscape]

theorem stringPoints_short {e : CodePoint} (other : e ≠ 'u') (short : escape? e = some c) :
    stringPoints start (CodePoint.ofChar '\\' :: e :: s) = consPoint c (stringPoints start s) := by
  rw [stringPoints.eq_def start (_ :: e :: s)]
  dsimp only
  rw [if_neg (by decide), if_neg (by decide), if_pos rfl, if_neg other, short]

theorem stringPoints_unit (small : n < 0x10000) (more : s ≠ []) :
    stringPoints start (escapedUnit n ++ s) =
      consPoint (CodePoint.ofNat n) (stringPoints start s) := by
  obtain ⟨h₁, h₂, h₃, h₄, digits, number⟩ := hex4?_hex small
  obtain ⟨next, r, rfl⟩ := List.exists_cons_of_ne_nil more
  have written : escapedUnit n ++ next :: r =
      CodePoint.ofChar '\\' :: CodePoint.ofChar 'u' :: h₁ :: h₂ :: h₃ :: h₄ :: next :: r := by
    unfold escapedUnit
    rw [digits]
    rfl
  rw [written, stringPoints.eq_def start (_ :: _ :: _)]
  dsimp only
  rw [if_neg (by decide), if_neg (by decide), if_pos rfl, if_pos rfl, number]

/-! ## Code points -/

/-- **How a code point is written**: with an escape of one letter, as itself, or as its one or
two UTF-16 units. -/
inductive Written (c : CodePoint) : Text → Prop
  | short (e : CodePoint) (other : e ≠ 'u') (stands : escape? e = some c)
    (printable : 0x20 ≤ e.val ∧ e.val < 0x7F) (small : c.val < 0x80) : Written c ['\\', e]
  | plain (noQuote : c ≠ '"') (noEscape : c ≠ '\\') (printable : 0x20 ≤ c.val ∧ c.val < 0x7F) :
    Written c [c]
  | unit (small : c.val < 0x10000) : Written c (escapedUnit c.val)
  | pair (large : 0x10000 ≤ c.val) :
    Written c (escapedUnit (0xD800 + (c.val - 0x10000) / 0x400)
      ++ escapedUnit (0xDC00 + (c.val - 0x10000) % 0x400))

theorem written_escapedPoint (c : CodePoint) : Written c (escapedPoint c) := by
  -- the cases are those of the definition, in its order
  unfold escapedPoint
  by_cases quote : c = '"'
  · rw [if_pos quote, quote]
    exact .short '"' (by decide) (by decide) (by decide) (by decide)
  rw [if_neg quote]
  by_cases escape : c = '\\'
  · rw [if_pos escape, escape]
    exact .short '\\' (by decide) (by decide) (by decide) (by decide)
  rw [if_neg escape]
  by_cases control : c.val < 0x20
  · rw [if_pos control]
    by_cases lineFeed : c = '\n'
    · rw [if_pos lineFeed, lineFeed]
      exact .short 'n' (by decide) (by decide) (by decide) (by decide)
    rw [if_neg lineFeed]
    by_cases carriageReturn : c = '\r'
    · rw [if_pos carriageReturn, carriageReturn]
      exact .short 'r' (by decide) (by decide) (by decide) (by decide)
    rw [if_neg carriageReturn]
    by_cases tab : c = '\t'
    · rw [if_pos tab, tab]
      exact .short 't' (by decide) (by decide) (by decide) (by decide)
    rw [if_neg tab]
    by_cases backspace : c.val = 0x08
    · rw [if_pos backspace, show c = CodePoint.ofNat 0x08 from Fin.ext backspace]
      exact .short 'b' (by decide) (by decide) (by decide) (by decide)
    rw [if_neg backspace]
    by_cases formFeed : c.val = 0x0C
    · rw [if_pos formFeed, show c = CodePoint.ofNat 0x0C from Fin.ext formFeed]
      exact .short 'f' (by decide) (by decide) (by decide) (by decide)
    · rw [if_neg formFeed]
      exact .unit (by omega)
  rw [if_neg control]
  by_cases plain : c.val < 0x7F
  · rw [if_pos plain]
    exact .plain quote escape ⟨Nat.not_lt.mp control, plain⟩
  rw [if_neg plain]
  by_cases small : c.val < 0x10000
  · rw [if_pos small]
    exact .unit small
  · rw [if_neg small]
    exact .pair (Nat.not_lt.mp small)

/-- The UTF-16 units of a code point. -/
def halves (c : CodePoint) : Text :=
  if c.val < 0x10000 then [c]
  else
    [CodePoint.ofNat (0xD800 + (c.val - 0x10000) / 0x400),
      CodePoint.ofNat (0xDC00 + (c.val - 0x10000) % 0x400)]

theorem halves_of_lt (small : c.val < 0x10000) : halves c = [c] := if_pos small

/-- **A code point is read** as its units, however it was written. -/
theorem stringPoints_escapedPoint (read : stringPoints start s = .ok (points, rest)) :
    stringPoints start (escapedPoint c ++ s) = .ok (halves c ++ points, rest) := by
  -- four digits at the very end are no escape, so the closing quote is needed here
  have more : s ≠ [] := by
    rintro rfl
    cases read
  have single (small : c.val < 0x10000) :
      consPoint c (stringPoints start s) = .ok (halves c ++ points, rest) := by
    rw [read, halves_of_lt small]
    rfl
  have written := written_escapedPoint c
  generalize escapedPoint c = w at written
  cases written with
  | short e other stands printable small =>
    exact (stringPoints_short other stands).trans (single (by omega))
  | plain noQuote noEscape printable =>
    exact (stringPoints_plain noQuote noEscape printable.1).trans (single (by omega))
  | unit small =>
    rw [stringPoints_unit small more, CodePoint.ofNat_val, single small]
  | pair large =>
    have bound := c.isLt
    have second : escapedUnit (0xDC00 + (c.val - 0x10000) % 0x400) ++ s ≠ [] := by simp [more]
    rw [List.append_assoc, stringPoints_unit (by omega) second, stringPoints_unit (by omega) more,
      read, halves, if_neg (Nat.not_lt.mpr large)]
    rfl

/-- **Joining** gives a code point back, whatever stands behind it, unless it is a first half
itself. -/
theorem joinHalves_halves (noHigh : c.isHighSurrogate = false) (t : Text) :
    joinHalves (halves c ++ t) = c :: joinHalves t := by
  have bound := c.isLt
  by_cases small : c.val < 0x10000
  · -- only what begins with the first half of a pair is joined with what is behind it
    rw [halves_of_lt small, List.singleton_append]
    cases t with
    | nil => rfl
    | cons d rest => simp [joinHalves, noHigh]
  · have high := CodePoint.val_ofNat (n := 0xD800 + (c.val - 0x10000) / 0x400) (by omega)
    have low := CodePoint.val_ofNat (n := 0xDC00 + (c.val - 0x10000) % 0x400) (by omega)
    have sum : 0x10000 + (c.val - 0x10000) / 0x400 * 0x400 + (c.val - 0x10000) % 0x400 = c.val := by
      omega
    rw [halves, if_neg small, List.cons_append, List.singleton_append, joinHalves, if_pos]
    · rw [CodePoint.joined, high, low, Nat.add_sub_cancel_left, Nat.add_sub_cancel_left, sum,
        CodePoint.ofNat_val]
    · simp only [CodePoint.isHighSurrogate, CodePoint.isLowSurrogate, high, low,
        Bool.and_eq_true, decide_eq_true_eq]
      omega

theorem halves_of_isHighSurrogate (high : c.isHighSurrogate = true) : halves c = [c] := by
  simp only [CodePoint.isHighSurrogate, Bool.and_eq_true, decide_eq_true_eq] at high
  exact halves_of_lt (by omega)

theorem halves_of_isLowSurrogate (low : c.isLowSurrogate = true) : halves c = [c] := by
  simp only [CodePoint.isLowSurrogate, Bool.and_eq_true, decide_eq_true_eq] at low
  exact halves_of_lt (by omega)

/-- The first unit of a code point is no second half, unless the code point is one. -/
theorem exists_head_halves (c : CodePoint) :
    ∃ d t, halves c = d :: t ∧ (d.isLowSurrogate = true → c.isLowSurrogate = true) := by
  by_cases small : c.val < 0x10000
  · exact ⟨c, [], halves_of_lt small, id⟩
  · have bound := c.isLt
    have high := CodePoint.val_ofNat (n := 0xD800 + (c.val - 0x10000) / 0x400) (by omega)
    refine ⟨_, _, if_neg small, fun low => ?_⟩
    simp only [CodePoint.isLowSurrogate, high, Bool.and_eq_true, decide_eq_true_eq] at low
    omega

/-! ## Strings -/

/-- **The units of a string** are joined to what the string itself is joined to. -/
theorem joinHalves_flatMap (t : Text) : joinHalves (t.flatMap halves) = joinHalves t := by
  fun_induction joinHalves t with
  | case1 => rfl
  | case2 c =>
    rw [List.flatMap_cons, List.flatMap_nil]
    by_cases high : c.isHighSurrogate = true
    · rw [halves_of_isHighSurrogate high]
      rfl
    · rw [joinHalves_halves (Bool.eq_false_iff.mpr high)]
      rfl
  | case3 c d rest pair ih =>
    obtain ⟨high, low⟩ := Bool.and_eq_true_iff.mp pair
    rw [List.flatMap_cons, List.flatMap_cons, halves_of_isHighSurrogate high,
      halves_of_isLowSurrogate low, List.singleton_append, List.singleton_append, joinHalves,
      if_pos pair, ih]
  | case4 c d rest noPair ih =>
    rw [List.flatMap_cons]
    by_cases high : c.isHighSurrogate = true
    · -- what is behind the first half begins with no second half, so both stay as they are
      obtain ⟨u, us, first, low⟩ := exists_head_halves d
      rw [List.flatMap_cons, first, List.cons_append] at ih ⊢
      rw [halves_of_isHighSurrogate high, List.singleton_append, joinHalves, if_neg, ih]
      intro pair
      exact noPair (Bool.and_eq_true_iff.mpr ⟨high, low (Bool.and_eq_true_iff.mp pair).2⟩)
    · rw [joinHalves_halves (Bool.eq_false_iff.mpr high), ih]

/-- **A pair stands in a text**: the first half of a surrogate pair directly before a second
half. -/
def HasPair (t : Text) : Prop :=
  ∃ before c d behind, t = before ++ c :: d :: behind ∧ c.isHighSurrogate = true ∧
    d.isLowSurrogate = true

theorem hasPair_cons_iff {d : CodePoint} :
    HasPair (c :: d :: t) ↔
      (c.isHighSurrogate && d.isLowSurrogate) = true ∨ HasPair (d :: t) := by
  constructor
  · rintro ⟨before, e, f, behind, whole, high, low⟩
    cases before with
    | nil =>
      cases whole
      exact .inl (Bool.and_eq_true_iff.mpr ⟨high, low⟩)
    | cons _ before =>
      obtain ⟨-, whole⟩ := List.cons_eq_cons.mp whole
      exact .inr ⟨before, e, f, behind, whole, high, low⟩
  · rintro (pair | ⟨before, e, f, behind, whole, halves⟩)
    · obtain ⟨high, low⟩ := Bool.and_eq_true_iff.mp pair
      exact ⟨[], c, d, t, rfl, high, low⟩
    · exact ⟨c :: before, e, f, behind, congrArg (c :: ·) whole, halves⟩

theorem not_hasPair_singleton : ¬ HasPair [c] := by
  rintro ⟨before, e, f, behind, whole, -⟩
  have length := congrArg List.length whole
  simp only [List.length_append, List.length_cons, List.length_nil] at length
  omega

theorem length_joinHalves_le (t : Text) : (joinHalves t).length ≤ t.length := by
  fun_induction joinHalves t with
  | case1 | case2 => exact Nat.le_refl _
  | case3 c d rest pair ih => exact Nat.succ_le_succ (Nat.le_succ_of_le ih)
  | case4 c d rest noPair ih => exact Nat.succ_le_succ ih

/-- **Joining changes nothing** exactly if no pair stands in the text. -/
theorem joinHalves_eq_self_iff (t : Text) : joinHalves t = t ↔ ¬ HasPair t := by
  fun_induction joinHalves t with
  | case1 => exact iff_of_true rfl fun ⟨_, _, _, _, whole, _⟩ => by simp at whole
  | case2 c => exact iff_of_true rfl not_hasPair_singleton
  | case3 c d rest pair ih =>
    refine iff_of_false (fun same => ?_) fun none => none (hasPair_cons_iff.mpr (.inl pair))
    -- what is left when a pair was joined is shorter
    have shorter := length_joinHalves_le rest
    have length := congrArg List.length same
    simp only [List.length_cons] at length
    omega
  | case4 c d rest noPair ih =>
    rw [hasPair_cons_iff, not_or, List.cons_eq_cons, ih]
    simp only [noPair, true_and, Bool.false_eq_true, not_false_eq_true]

theorem joinHalves_of_isScalar (scalar : ∀ c ∈ t, c.isScalar = true) : joinHalves t = t := by
  refine (joinHalves_eq_self_iff t).mpr ?_
  rintro ⟨before, c, d, behind, whole, high, -⟩
  have noHalf := scalar c (whole ▸ List.mem_append_right _ (List.mem_cons_self ..))
  rw [CodePoint.isScalar, high] at noHalf
  cases noHalf

theorem stringPoints_flatMap (start t rest : Text) :
    stringPoints start (t.flatMap escapedPoint ++ CodePoint.ofChar '"' :: rest) =
      .ok (t.flatMap halves, rest) := by
  induction t with
  | nil => exact stringPoints_quote start rest
  | cons c t ih =>
    rw [List.flatMap_cons, List.flatMap_cons, List.append_assoc]
    exact stringPoints_escapedPoint ih

/-- **A string is read**, with its pairs joined. -/
theorem stringBody_written (start t rest : Text) :
    stringBody start (t.flatMap escapedPoint ++ CodePoint.ofChar '"' :: rest) =
      .ok (joinHalves t, rest) := by
  rw [stringBody, stringPoints_flatMap]
  dsimp only
  rw [joinHalves_flatMap]

end Json
end OpenBroker
