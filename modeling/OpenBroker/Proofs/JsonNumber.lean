import OpenBroker.Json.Basic
import OpenBroker.Json.Parser
import OpenBroker.Proofs.Decimal

/-! # Numbers of documents are read

A written number can be told apart from what follows it as long as that is nothing or the end
of the place where the number stands (`Closes`): more digits behind it would be read as a part
of it.

An integer is read back as it was.  A real number is written in one of several layouts, all of
which have the same parts (`IsReal`): a whole part, and a fraction or an exponent or both.  So
what is written for it is read as a real number, whatever its layout.
-/
namespace OpenBroker
namespace Json

variable {c : CodePoint} {s t rest word whole ds : Text}

/-- What may stand behind a document: nothing, or a character that ends its place or its line. -/
def Closes (rest : Text) : Prop :=
  ∀ c ∈ rest.head?, c = ',' ∨ c = ']' ∨ c = '\x7d' ∨ c = '\n'

theorem closes_nil : Closes [] := fun _ h => nomatch h

theorem closes_cons (h : c = ',' ∨ c = ']' ∨ c = '\x7d' ∨ c = '\n') : Closes (c :: rest) := by
  intro d hd
  cases hd
  exact h

/-! ## Rows of digits -/

/-- **Row of digits**, with at least one of them. -/
structure IsRow (ds : Text) : Prop where
  nonempty : ds ≠ []
  digits : ∀ c ∈ ds, c.isAsciiDigit = true

/-- A text that does not go on with a digit. -/
def NoDigit (rest : Text) : Prop := ∀ c ∈ rest.head?, c.isAsciiDigit = false

theorem Closes.noDigit (closes : Closes rest) : NoDigit rest := by
  intro c hc
  rcases closes c hc with rfl | rfl | rfl | rfl <;> decide

theorem noDigit_cons (other : c.isAsciiDigit = false) : NoDigit (c :: rest) := by
  intro d hd
  cases hd
  exact other

theorem isRow_ofNat (n : Nat) : IsRow (Decimal.ofNat n) := by
  obtain ⟨c, ds, written, -⟩ := Decimal.exists_head_ofNat n
  exact ⟨by rw [written]; exact List.cons_ne_nil _ _, fun _ => Decimal.isAsciiDigit_of_mem_ofNat⟩

theorem isAsciiDigit_zeros (n : Nat) : ∀ c ∈ Text.replicate n '0', c.isAsciiDigit = true := by
  intro c hc
  rw [List.eq_of_mem_replicate hc]
  decide

theorem isRow_zeros (n : Nat) (row : IsRow ds) : IsRow (Text.replicate n '0' ++ ds) where
  nonempty := List.append_ne_nil_of_right_ne_nil _ row.nonempty
  digits := List.forall_mem_append.mpr ⟨isAsciiDigit_zeros n, row.digits⟩

theorem digits_append (all : ∀ c ∈ ds, c.isAsciiDigit = true) (stop : NoDigit rest) :
    digits (ds ++ rest) = (ds, rest) := by
  have none : rest.takeWhile CodePoint.isAsciiDigit = [] ∧
      rest.dropWhile CodePoint.isAsciiDigit = rest := by
    cases rest with
    | nil => exact ⟨rfl, rfl⟩
    | cons c rest => simp [stop c rfl]
  rw [digits, List.takeWhile_append_of_pos all, List.dropWhile_append_of_pos all, none.1, none.2,
    List.append_nil]

/-- **Whole part** of a number: a row of digits that has a zero in front only if there is nothing
else. -/
structure IsWhole (whole : Text) : Prop extends IsRow whole where
  zero : ∀ ds, whole = CodePoint.ofChar '0' :: ds → ds = []

theorem isWhole_ofNat (n : Nat) : IsWhole (Decimal.ofNat n) := by
  refine ⟨isRow_ofNat n, fun ds written => ?_⟩
  obtain ⟨c, ds', written', zero⟩ := Decimal.exists_head_ofNat n
  obtain ⟨rfl, rfl⟩ := List.cons_eq_cons.mp (written.symm.trans written')
  rw [zero rfl, Decimal.ofNat_of_lt (by decide)] at written
  exact (List.cons_eq_cons.mp written).2.symm

theorem isWhole_zero : IsWhole [CodePoint.ofChar '0'] where
  nonempty := List.cons_ne_nil _ _
  digits := isAsciiDigit_zeros 1
  zero _ written := (List.cons_eq_cons.mp written).2.symm

theorem wholePart?_append (isWhole : IsWhole whole) (stop : NoDigit rest) :
    wholePart? (whole ++ rest) = some (whole, rest) := by
  obtain ⟨c, ds, rfl⟩ := List.exists_cons_of_ne_nil isWhole.nonempty
  by_cases h : c = '0'
  · subst h
    rw [isWhole.zero ds rfl]
    rfl
  · rw [List.cons_append, wholePart?, if_neg h, if_pos (isWhole.digits c (List.mem_cons_self ..)),
      ← List.cons_append, digits_append isWhole.digits stop]

/-! ## Fractions and exponents -/

/-- **Fraction** of a number: nothing, or a point and digits. -/
inductive IsFraction : Text → Prop
  | none : IsFraction []
  | some (ds : Text) (row : IsRow ds) : IsFraction (CodePoint.ofChar '.' :: ds)

/-- **Exponent** of a number: nothing, or a letter, a sign and digits. -/
inductive IsExponent : Text → Prop
  | none : IsExponent []
  | some (sign : CodePoint) (signs : sign = '+' ∨ sign = '-') (ds : Text) (row : IsRow ds) :
    IsExponent (CodePoint.ofChar 'e' :: sign :: ds)

theorem fraction_of_noPoint (noPoint : ∀ c ∈ rest.head?, c ≠ '.') : fraction rest = ([], rest) := by
  match rest, noPoint with
  | [], _ => rfl
  | [_], _ => rfl
  | c :: d :: s, noPoint => rw [fraction, if_neg fun h => noPoint c rfl h.1]

theorem exponent_of_closes (closes : Closes rest) : exponent rest = (none, rest) := by
  cases rest with
  | nil => rfl
  | cons c s =>
    have noLetter : ¬ (c = 'e' ∨ c = 'E') := by
      rcases closes c rfl with rfl | rfl | rfl | rfl <;> decide
    rw [exponent]
    simp only [if_neg noLetter]

theorem fraction_append {f : Text} (isFraction : IsFraction f) (noPoint : ∀ c ∈ rest.head?, c ≠ '.')
    (stop : NoDigit rest) : fraction (f ++ rest) = (f.drop 1, rest) := by
  cases isFraction with
  | none => exact fraction_of_noPoint noPoint
  | some ds row =>
    obtain ⟨d, ds, rfl⟩ := List.exists_cons_of_ne_nil row.nonempty
    have digit := row.digits d (List.mem_cons_self ..)
    exact (if_pos ⟨rfl, digit⟩).trans (digits_append row.digits stop)

theorem exists_exponent_append {e : Text} (isExponent : IsExponent e) :
    ∃ n?, (e ≠ [] → n?.isNone = false) ∧
      ∀ rest, Closes rest → exponent (e ++ rest) = (n?, rest) := by
  cases isExponent with
  | none => exact ⟨none, fun h => absurd rfl h, fun _ => exponent_of_closes⟩
  | some sign signs ds row =>
    obtain ⟨negative, behind⟩ : ∃ negative, ∀ rest,
        Literal.sign (sign :: (ds ++ rest)) = (negative, ds ++ rest) := by
      rcases signs with rfl | rfl
      · exact ⟨false, fun _ => rfl⟩
      · exact ⟨true, fun _ => rfl⟩
    have nonempty : ds.isEmpty = false := by simpa using row.nonempty
    refine ⟨some (if negative then -(Decimal.toNat ds : Int) else Decimal.toNat ds),
      fun _ => rfl, fun rest closes => ?_⟩
    rw [List.cons_append, List.cons_append, exponent]
    simp only [true_or, if_true, behind, digits_append row.digits closes.noDigit, nonempty]
    rfl

/-! ## Integers -/

/-- **An integer is read back.** -/
theorem number_ofInt {n : Int} (short : n.natAbs < Nat.pow 10 Literal.digitLimit)
    (closes : Closes rest) : number (Decimal.ofInt n ++ rest) = .ok (.int n, rest) := by
  have fits : ¬ Literal.digitLimit < (Decimal.ofNat n.natAbs).length :=
    Nat.not_lt.mpr (Decimal.length_ofNat_le (by decide) short)
  have whole := wholePart?_append (isWhole_ofNat n.natAbs) closes.noDigit
  have noPoint : ∀ c ∈ rest.head?, c ≠ '.' := by
    intro c hc
    rcases closes c hc with rfl | rfl | rfl | rfl <;> decide
  have integral : ((([] : Text).isEmpty && (none : Option Int).isNone) = true) := rfl
  -- the sign is taken off, and what is left is the absolute value, with nothing behind it that
  -- would make it a real number
  cases n with
  | ofNat k =>
    obtain ⟨c, ds, written, -⟩ := Decimal.exists_head_ofNat k
    have digit := Decimal.isAsciiDigit_of_mem_ofNat (written ▸ List.mem_cons_self ..)
    have noSign : c ≠ '-' := CodePoint.ne_of_isAsciiDigit digit (by decide)
    have body : Decimal.ofInt (.ofNat k) ++ rest = c :: (ds ++ rest) := by
      rw [Decimal.ofInt, written, List.cons_append]
    simp only [Int.natAbs] at whole fits
    rw [written, List.cons_append] at whole
    rw [body, number]
    simp only [if_neg noSign, whole, fraction_of_noPoint noPoint, exponent_of_closes closes]
    rw [if_pos integral, ← written, if_neg fits, Decimal.toNat_ofNat]
    rfl
  | negSucc k =>
    have body : Decimal.ofInt (.negSucc k) ++ rest =
      CodePoint.ofChar '-' :: (Decimal.ofNat (k + 1) ++ rest) := rfl
    simp only [Int.natAbs] at whole fits
    rw [body, number]
    simp only [if_true, whole, fraction_of_noPoint noPoint, exponent_of_closes closes]
    rw [if_pos integral, if_neg fits, Decimal.toNat_ofNat]
    rfl

/-! ## Real numbers -/

/-- **Text of a real number** without its sign. -/
structure IsReal (t : Text) : Prop where
  parts : ∃ whole f e, t = whole ++ (f ++ e) ∧ IsWhole whole ∧ IsFraction f ∧ IsExponent e ∧
    (f ≠ [] ∨ e ≠ [])

theorem IsReal.point (isWhole : IsWhole whole) (row : IsRow ds) :
    IsReal (whole ++ CodePoint.ofChar '.' :: ds) :=
  ⟨whole, _, [], by rw [List.append_nil], isWhole, .some ds row, .none, .inl (List.cons_ne_nil _ _)⟩

/-- **A real number is read**, with or without a sign in front of it, whatever closes it. -/
theorem exists_number_of_isReal (real : IsReal t) :
    (∃ x, ∀ rest, Closes rest → number (t ++ rest) = .ok (.real x, rest)) ∧
      ∃ x, ∀ rest, Closes rest →
        number (CodePoint.ofChar '-' :: (t ++ rest)) = .ok (.real x, rest) := by
  obtain ⟨whole, f, e, rfl, isWhole, isFraction, isExponent, real⟩ := real.parts
  obtain ⟨n?, present, exponent⟩ := exists_exponent_append isExponent
  have noInteger : ((f.drop 1).isEmpty && n?.isNone) = false := by
    rcases real with hf | he
    · cases isFraction with
      | none => exact absurd rfl hf
      | some ds row => simp [row.nonempty]
    · rw [present he, Bool.and_false]
  -- the parts are read one after the other, as each of them ends where the next one begins
  have head {rest : Text} (closes : Closes rest) :
      ∀ c ∈ (e ++ rest).head?, c ≠ '.' ∧ c.isAsciiDigit = false := by
    cases isExponent with
    | none =>
      intro c hc
      rcases closes c hc with rfl | rfl | rfl | rfl <;> decide
    | some =>
      intro c hc
      cases hc
      decide
  have stop {rest : Text} (closes : Closes rest) : NoDigit (f ++ (e ++ rest)) := by
    cases isFraction with
    | none => exact fun c hc => (head closes c hc).2
    | some => exact noDigit_cons (by decide)
  have wholePart {rest : Text} (closes : Closes rest) :=
    wholePart?_append isWhole (stop closes)
  have fraction {rest : Text} (closes : Closes rest) :=
    fraction_append isFraction (fun c hc => (head closes c hc).1) fun c hc => (head closes c hc).2
  have text (rest : Text) : whole ++ (f ++ e) ++ rest = whole ++ (f ++ (e ++ rest)) := by
    simp only [List.append_assoc]
  refine ⟨⟨.ofDecimal false (Decimal.toNat (whole ++ f.drop 1)) (n?.getD 0 - (f.drop 1).length),
    fun rest closes => ?_⟩,
    .ofDecimal true (Decimal.toNat (whole ++ f.drop 1)) (n?.getD 0 - (f.drop 1).length),
    fun rest closes => ?_⟩
  · have wholePart := wholePart closes
    obtain ⟨c, ds, written⟩ := List.exists_cons_of_ne_nil isWhole.nonempty
    have noSign : c ≠ '-' :=
      CodePoint.ne_of_isAsciiDigit (isWhole.digits c (written ▸ List.mem_cons_self ..)) (by decide)
    have body : whole ++ (f ++ (e ++ rest)) = c :: (ds ++ (f ++ (e ++ rest))) := by
      rw [written, List.cons_append]
    rw [body] at wholePart
    rw [text, body, number]
    simp only [if_neg noSign, wholePart, fraction closes, exponent rest closes, noInteger]
    rfl
  · rw [text, number]
    simp only [if_true, wholePart closes, fraction closes, exponent rest closes, noInteger]
    rfl

end Json

/-! ## How real numbers are written -/

namespace Binary64

open Json

variable {m c : Nat} {q k : Int} {ds : Text}

theorem span_low_pos (positive : 0 < m) (q : Int) : 0 < (span m q).low := by
  have up : 0 < Nat.pow 2 (q - 2).toNat := Nat.pow_pos (by decide)
  refine Nat.mul_pos ?_ up
  split <;> omega

/-- Zero is no candidate, for it is not in the interval. -/
theorem pos_of_candidate? (positive : 0 < m) (h : (span m q).candidate? k = some c) : 0 < c := by
  have outside : (span m q).contains 0 k = false := by
    have unit : 0 < Nat.pow 10 (-k).toNat := Nat.pow_pos (by decide)
    have low := Nat.mul_pos (span_low_pos positive q) unit
    rw [Span.contains]
    simp only [Nat.zero_mul]
    split <;> simp only [Bool.and_eq_false_iff, decide_eq_false_iff_not] <;> left <;> omega
  have inside : (span m q).contains c k = true := by
    unfold Span.candidate? at h
    simp only at h
    split at h
    · cases h
      split <;> assumption
    · cases h
      assumption
    · cases h
      assumption
    · cases h
  refine Nat.pos_of_ne_zero ?_
  rintro rfl
  rw [outside] at inside
  cases inside

theorem stripZeros_pos (positive : 0 < c) (k : Int) : 0 < (stripZeros c k).1 := by
  fun_induction stripZeros c k with
  | case1 c k h ih => exact ih (by omega)
  | case2 => exact positive

/-- **The digits of a double** that is not zero are no zero. -/
theorem shortest_pos (positive : 0 < m) (q : Int) : 0 < (shortest m q).1 := by
  rw [shortest]
  split
  · rename_i c k found
    obtain ⟨i, -, grid⟩ := List.exists_of_findSome?_eq_some found
    obtain ⟨c', candidate, same⟩ := Option.map_eq_some_iff.mp grid
    cases same
    exact stripZeros_pos (pos_of_candidate? positive candidate) _
  · exact positive

/-- **Every layout** of a row of digits is the text of a real number, if the row begins with no
zero. -/
theorem Layout.isReal_write (l : Layout) (row : IsRow ds)
    (noZero : ∀ rest, ds ≠ CodePoint.ofChar '0' :: rest) (point : Int) :
    IsReal (l.write ds point) := by
  obtain ⟨d, ds, rfl⟩ := List.exists_cons_of_ne_nil row.nonempty
  have digit := row.digits d (List.mem_cons_self ..)
  have digits : ∀ c ∈ ds, c.isAsciiDigit = true := fun c hc =>
    row.digits c (List.mem_cons_of_mem _ hc)
  have whole {t : Text} (digits : ∀ c ∈ t, c.isAsciiDigit = true) : IsWhole (d :: t) := by
    refine ⟨⟨List.cons_ne_nil _ _, List.forall_mem_cons.mpr ⟨digit, digits⟩⟩, fun t' written => ?_⟩
    exact absurd (congrArg (· :: ds) (List.cons_eq_cons.mp written).1) (noZero ds)
  unfold Layout.write
  by_cases positional : l.firstPoint ≤ point ∧ point ≤ l.lastPoint
  · rw [if_pos positional]
    by_cases small : point ≤ 0
    · rw [if_pos small, List.append_assoc]
      exact .point isWhole_zero (isRow_zeros _ row)
    rw [if_neg small]
    by_cases integral : ((d :: ds).length : Int) ≤ point
    · rw [if_pos integral]
      exact .point (whole (List.forall_mem_append.mpr ⟨digits, isAsciiDigit_zeros _⟩))
        isWhole_zero.toIsRow
    · rw [if_neg integral, List.append_assoc]
      -- the point stands between two of the digits
      obtain ⟨n, position⟩ : ∃ n, point.toNat = n + 1 := ⟨point.toNat - 1, by omega⟩
      have behind : ds.drop n ≠ [] := by
        intro none
        have length := List.drop_eq_nil_iff.mp none
        simp only [List.length_cons] at integral
        omega
      rw [position, List.take_succ_cons, List.drop_succ_cons]
      exact .point (whole fun c hc => digits c (List.mem_of_mem_take hc))
        ⟨behind, fun c hc => digits c (List.mem_of_mem_drop hc)⟩
  · rw [if_neg positional]
    have fraction : IsFraction (if (d :: ds).length ≤ 1 then [] else "." ++ (d :: ds).drop 1) := by
      by_cases single : (d :: ds).length ≤ 1
      · rw [if_pos single]
        exact .none
      · rw [if_neg single]
        refine .some ds ⟨?_, digits⟩
        rintro rfl
        exact single (Nat.le_refl 1)
    have sign : ∃ sign : CodePoint, (sign = '+' ∨ sign = '-') ∧
        (if point - 1 < 0 then ("-" : Text) else "+") = [sign] := by
      by_cases negative : point - 1 < 0
      · exact ⟨'-', .inr rfl, if_pos negative⟩
      · exact ⟨'+', .inl rfl, if_neg negative⟩
    obtain ⟨sign, signs, written⟩ := sign
    simp only [written, List.append_assoc]
    exact ⟨[d], _, _, rfl, whole (by simp), fraction, .some sign signs _
      (isRow_zeros _ (isRow_ofNat _)), .inr (List.cons_ne_nil _ _)⟩

theorem isReal_writeFinite (m : Nat) (q : Int) : IsReal (writeFinite m q) := by
  unfold writeFinite
  by_cases zero : m = 0
  · rw [if_pos zero]
    exact .point isWhole_zero isWhole_zero.toIsRow
  · rw [if_neg zero]
    have positive := shortest_pos (Nat.pos_of_ne_zero zero) q
    refine layout.isReal_write (isRow_ofNat _) (fun rest written => ?_) _
    obtain ⟨c, ds, written', noZero⟩ := Decimal.exists_head_ofNat (shortest m q).1
    have first := (List.cons_eq_cons.mp (written'.symm.trans written)).1
    rw [noZero first] at positive
    exact absurd positive (Nat.lt_irrefl 0)

end Binary64

namespace Json

/-- **How a real number is written**: as a name, or as the text of a real number with a sign or
without one. -/
inductive WrittenReal : Text → Prop
  | nan : WrittenReal "NaN"
  | infinity : WrittenReal "Infinity"
  | negativeInfinity : WrittenReal "-Infinity"
  | finite {t : Text} (real : IsReal t) : WrittenReal t
  | negative {t : Text} (real : IsReal t) : WrittenReal (CodePoint.ofChar '-' :: t)

theorem writtenReal_writeReal (x : Binary64) : WrittenReal (writeReal x) := by
  unfold writeReal Binary64.write
  cases x.meaning with
  | nan => exact .nan
  | infinite negative =>
    cases negative with
    | false => exact .infinity
    | true => exact .negativeInfinity
  | finite negative m q =>
    have real := Binary64.isReal_writeFinite m q
    cases negative with
    | false => exact .finite real
    | true => exact .negative real

/-! ## Words -/

theorem afterWord?_of_ne {w : CodePoint} (ne : w ≠ c) : afterWord? (w :: word) (c :: s) = none := by
  rw [afterWord?, if_neg ne]

theorem scalar_null (rest : Text) : scalar ("null" ++ rest) = .ok (.null, rest) := rfl

theorem scalar_true (rest : Text) : scalar ("true" ++ rest) = .ok (.bool true, rest) := rfl

theorem scalar_false (rest : Text) : scalar ("false" ++ rest) = .ok (.bool false, rest) := rfl

/-- What begins with none of the words is a number. -/
theorem scalar_of_noWord (noWord : ∀ w ∈ (["null", "true", "false", "NaN", "Infinity",
    "-Infinity"] : List Text), afterWord? w s = none) : scalar s = number s := by
  simp only [List.mem_cons, List.not_mem_nil, or_false, forall_eq_or_imp, forall_eq] at noWord
  obtain ⟨h₁, h₂, h₃, h₄, h₅, h₆⟩ := noWord
  simp only [scalar, List.findSome?_cons, List.findSome?_nil, h₁, h₂, h₃, h₄, h₅, h₆,
    Option.map_none]

/-- What begins with a digit is no word, since the words have a letter in its place. -/
theorem scalar_of_isAsciiDigit (digit : c.isAsciiDigit = true) (s : Text) :
    scalar (c :: s) = number (c :: s) := by
  have letter {w : CodePoint} (other : w.isAsciiDigit = false) : w ≠ c :=
    (CodePoint.ne_of_isAsciiDigit digit other).symm
  apply scalar_of_noWord
  simp only [List.mem_cons, List.not_mem_nil, or_false, forall_eq_or_imp, forall_eq]
  exact ⟨afterWord?_of_ne (letter rfl), afterWord?_of_ne (letter rfl),
    afterWord?_of_ne (letter rfl), afterWord?_of_ne (letter rfl),
    afterWord?_of_ne (letter rfl), afterWord?_of_ne (letter rfl)⟩

/-- One of the words begins with a sign too, and goes on with a letter. -/
theorem scalar_of_sign (digit : c.isAsciiDigit = true) (s : Text) :
    scalar (CodePoint.ofChar '-' :: c :: s) = number (CodePoint.ofChar '-' :: c :: s) := by
  have letter : CodePoint.ofChar 'I' ≠ c := (CodePoint.ne_of_isAsciiDigit digit rfl).symm
  apply scalar_of_noWord
  simp only [List.mem_cons, List.not_mem_nil, or_false, forall_eq_or_imp, forall_eq]
  exact ⟨afterWord?_of_ne (by decide), afterWord?_of_ne (by decide),
    afterWord?_of_ne (by decide), afterWord?_of_ne (by decide),
    afterWord?_of_ne (by decide), (if_pos rfl).trans (afterWord?_of_ne letter)⟩

theorem scalar_ofInt (n : Int) (rest : Text) :
    scalar (Decimal.ofInt n ++ rest) = number (Decimal.ofInt n ++ rest) := by
  obtain ⟨c, ds, digit, written | written⟩ := Decimal.exists_head_ofInt n
  · rw [written]
    exact scalar_of_isAsciiDigit digit _
  · rw [written]
    exact scalar_of_sign digit _

theorem IsReal.exists_head (real : IsReal t) : ∃ c s, t = c :: s ∧ c.isAsciiDigit = true := by
  obtain ⟨whole, f, e, rfl, isWhole, -⟩ := real.parts
  obtain ⟨c, ds, rfl⟩ := List.exists_cons_of_ne_nil isWhole.nonempty
  exact ⟨c, _, rfl, isWhole.digits c (List.mem_cons_self ..)⟩

/-- What a real number begins with. -/
theorem exists_head_writeReal (x : Binary64) :
    ∃ c s, writeReal x = c :: s ∧ (c.isAsciiDigit = true ∨ c = '-' ∨ c = 'I' ∨ c = 'N') := by
  have written := writtenReal_writeReal x
  generalize writeReal x = t at written
  cases written with
  | finite real =>
    obtain ⟨c, s, first, digit⟩ := real.exists_head
    exact ⟨c, s, first, .inl digit⟩
  | negative | negativeInfinity => exact ⟨_, _, rfl, .inr (.inl rfl)⟩
  | infinity => exact ⟨_, _, rfl, .inr (.inr (.inl rfl))⟩
  | nan => exact ⟨_, _, rfl, .inr (.inr (.inr rfl))⟩

/-- **What is written for a real number** is read as a real number. -/
theorem exists_scalar_writeReal (x : Binary64) :
    ∃ y, ∀ rest, Closes rest → scalar (writeReal x ++ rest) = .ok (.real y, rest) := by
  have written := writtenReal_writeReal x
  generalize writeReal x = t at written
  cases written with
  | nan | infinity | negativeInfinity => exact ⟨_, fun _ _ => rfl⟩
  | finite real =>
    obtain ⟨c, s, first, digit⟩ := real.exists_head
    obtain ⟨y, read⟩ := (exists_number_of_isReal real).1
    refine ⟨y, fun rest closes => Eq.trans ?_ (read rest closes)⟩
    rw [first]
    exact scalar_of_isAsciiDigit digit _
  | negative real =>
    obtain ⟨c, s, first, digit⟩ := real.exists_head
    obtain ⟨y, read⟩ := (exists_number_of_isReal real).2
    refine ⟨y, fun rest closes => Eq.trans ?_ (read rest closes)⟩
    rw [first]
    exact scalar_of_sign digit _

end Json
end OpenBroker
