import OpenBroker.Proofs.Decimal
import OpenBroker.Proofs.Text

/-! # What numerals denote

A whole number in a configuration value is a row of decimal digits, of any scripts, with single
underscores between digits if need be, and with a sign in front of it or none.  `Denotes` says so
without a reader: a row is read from the left, and every further digit makes ten times the value and
the digit.  No text denotes two numbers (`Denotes.unique`).

The reader turns the digits into those of ASCII before it looks at anything else, and takes the
longest row that it finds.  What it accepts is what the text denotes (`denotes_of_integer`), and of
what denotes a number it refuses nothing but what is too long (`integer_of_denotes`).  A number that
was accepted is accepted again as it is written (`integer_ofNat`, `length_ofNat_of_integer`): the
digits that are written are no more than those that were read.
-/
namespace OpenBroker
namespace Literal

variable {c : CodePoint} {n m d : Nat} {t ds : Text}

/-- **A row of digits goes on**: behind digits with a value, a text gives another value. -/
inductive GoesOn : Nat → Text → Nat → Prop
  | done (n : Nat) : GoesOn n [] n
  | digit {n m d : Nat} {c : CodePoint} {t : Text} (value : Text.digit? c = some d)
    (more : GoesOn (10 * n + d) t m) : GoesOn n (c :: t) m
  | underscore {n m d : Nat} {c : CodePoint} {t : Text} (value : Text.digit? c = some d)
    (more : GoesOn (10 * n + d) t m) : GoesOn n (CodePoint.ofChar '_' :: c :: t) m

/-- **Row of digits** with its value; it begins with a digit. -/
inductive Row : Text → Nat → Prop
  | digits {n d : Nat} {c : CodePoint} {t : Text} (value : Text.digit? c = some d)
    (more : GoesOn d t n) : Row (c :: t) n

/-- **A numeral denotes** a whole number. -/
inductive Denotes : Text → Int → Prop
  | plain {t : Text} {n : Nat} (row : Row t n) : Denotes t n
  | plus {t : Text} {n : Nat} (row : Row t n) : Denotes (CodePoint.ofChar '+' :: t) n
  | minus {t : Text} {n : Nat} (row : Row t n) : Denotes (CodePoint.ofChar '-' :: t) (-n)

/-! ## No text denotes two numbers -/

theorem GoesOn.unique (h : GoesOn n t m) {m' : Nat} (h' : GoesOn n t m') : m = m' := by
  have underscore : Text.digit? '_' = none := by decide
  induction h with
  | done n =>
    cases h'
    rfl
  | digit value more ih =>
    cases h' with
    | digit value' more' =>
      rw [value] at value'
      cases value'
      exact ih more'
    | underscore =>
      rw [underscore] at value
      cases value
  | underscore value more ih =>
    cases h' with
    | digit value' =>
      rw [underscore] at value'
      cases value'
    | underscore value' more' =>
      rw [value] at value'
      cases value'
      exact ih more'

theorem Row.unique (h : Row t n) (h' : Row t m) : n = m := by
  obtain ⟨value, more⟩ := h
  obtain ⟨value', more'⟩ := h'
  rw [value] at value'
  cases value'
  exact more.unique more'

/-- A sign is no digit, so what is behind it is not read with it. -/
theorem not_row_of_none (none : Text.digit? c = none) : ¬ Row (c :: t) n := by
  rintro ⟨value, -⟩
  rw [none] at value
  cases value

theorem Denotes.unique {z z' : Int} (h : Denotes t z) (h' : Denotes t z') : z = z' := by
  have plus : Text.digit? '+' = none := by decide
  have minus : Text.digit? '-' = none := by decide
  cases h with
  | plain row =>
    cases h' with
    | plain row' => rw [row.unique row']
    | plus => exact absurd row (not_row_of_none plus)
    | minus => exact absurd row (not_row_of_none minus)
  | plus row =>
    cases h' with
    | plain row' => exact absurd row' (not_row_of_none plus)
    | plus row' => rw [row.unique row']
  | minus row =>
    cases h' with
    | plain row' => exact absurd row' (not_row_of_none minus)
    | minus row' => rw [row.unique row']

/-! ## Digits of any script -/

theorem digit?_of_isAsciiDigit (digit : c.isAsciiDigit = true) :
    Text.digit? c = some (c.val - 0x30) := by
  have range := CodePoint.isAsciiDigit_iff.mp digit
  rw [Text.digit?, if_pos (by omega), if_pos digit]

theorem lt_of_digit? (value : Text.digit? c = some d) : d < 10 := by
  unfold Text.digit? at value
  split at value
  · split at value
    · rename_i digit
      have range := CodePoint.isAsciiDigit_iff.mp digit
      cases value
      omega
    · cases value
  · obtain ⟨z, found, rfl⟩ := Option.map_eq_some_iff.mp value
    have range := List.find?_some found
    simp only [Bool.and_eq_true, decide_eq_true_eq] at range
    omega

/-- A digit of any script as one of ASCII, and any other character as it is. -/
def plainDigit (c : CodePoint) : CodePoint :=
  match Text.digit? c with
  | some d => Decimal.digit d
  | none => c

theorem plainDigit_of_some (value : Text.digit? c = some d) : plainDigit c = Decimal.digit d := by
  rw [plainDigit, value]

theorem plainDigit_of_none (none : Text.digit? c = none) :
    plainDigit c = c ∧ c.isAsciiDigit = false := by
  refine ⟨by rw [plainDigit, none], Bool.eq_false_iff.mpr fun digit => ?_⟩
  rw [digit?_of_isAsciiDigit digit] at none
  cases none

theorem plainDigits_cons (c : CodePoint) (t : Text) :
    plainDigits (c :: t) = plainDigit c :: plainDigits t := rfl

theorem toNatFrom_digit (small : d < 10) (n : Nat) (ds : Text) :
    Decimal.toNatFrom n (Decimal.digit d :: ds) = Decimal.toNatFrom (10 * n + d) ds := by
  rw [Decimal.toNatFrom, List.foldl_cons, Decimal.val_digit small, Nat.add_sub_cancel_left]
  rfl

/-- What becomes a digit of ASCII is a digit of some script. -/
theorem exists_digit?_of_plainDigit (digit : (plainDigit c).isAsciiDigit = true) :
    ∃ d, Text.digit? c = some d := by
  cases value : Text.digit? c with
  | some d => exact ⟨d, rfl⟩
  | none =>
    obtain ⟨same, noDigit⟩ := plainDigit_of_none value
    rw [same, noDigit] at digit
    cases digit

/-- A character that is no digit of ASCII comes from itself only. -/
theorem plainDigit_eq_iff {x : CodePoint} (noDigit : x.isAsciiDigit = false)
    (none : Text.digit? x = none) : plainDigit c = x ↔ c = x := by
  constructor
  · rintro rfl
    cases value : Text.digit? c with
    | some d =>
      rw [plainDigit_of_some value, Decimal.isAsciiDigit_digit (lt_of_digit? value)] at noDigit
      cases noDigit
    | none => exact (plainDigit_of_none value).1.symm
  · rintro rfl
    exact (plainDigit_of_none none).1

/-! ## What the reader accepts -/

theorem digitRow?_digit (digit : c.isAsciiDigit = true) (afterDigit : Bool) (t : Text) :
    digitRow? afterDigit (c :: t) = (digitRow? true t).map fun (ds, rest) => (c :: ds, rest) := by
  rw [digitRow?.eq_def]
  dsimp only
  rw [if_pos digit]

/-- What is no digit and no underscore ends a row. -/
theorem digitRow?_other (noDigit : c.isAsciiDigit = false) (other : c ≠ '_') (afterDigit : Bool)
    (t : Text) : digitRow? afterDigit (c :: t) = some ([], c :: t) := by
  rw [digitRow?.eq_def]
  dsimp only
  rw [if_neg (Bool.eq_false_iff.mp noDigit), if_neg other]

/-- An underscore stands behind a digit and before one. -/
theorem of_digitRow?_underscore {afterDigit : Bool} {read : Text × Text}
    (h : digitRow? afterDigit (CodePoint.ofChar '_' :: t) = some read) :
    afterDigit = true ∧ ∃ c t', t = c :: t' ∧ c.isAsciiDigit = true ∧
      digitRow? false t = some read := by
  rw [digitRow?.eq_def] at h
  dsimp only at h
  rw [if_neg (by decide), if_pos rfl] at h
  cases t with
  | nil => cases h
  | cons c t' =>
    dsimp only at h
    split at h
    · rename_i between
      obtain ⟨after, digit⟩ := Bool.and_eq_true_iff.mp between
      exact ⟨after, c, t', rfl, digit, h⟩
    · cases h

theorem digitRow?_underscore (digit : c.isAsciiDigit = true) (t : Text) :
    digitRow? true (CodePoint.ofChar '_' :: c :: t) = digitRow? false (c :: t) := by
  rw [digitRow?.eq_def]
  dsimp only
  rw [if_neg (by decide), if_pos rfl, digit]
  rfl

/-- A row that begins with a digit goes on behind it. -/
theorem digitRow?_of_some (value : Text.digit? c = some d) {afterDigit : Bool} {read : Text × Text}
    (h : digitRow? afterDigit (plainDigits (c :: t)) = some read) :
    ∃ ds, digitRow? true (plainDigits t) = some (ds, read.2) ∧ read.1 = Decimal.digit d :: ds := by
  have digit := Decimal.isAsciiDigit_digit (lt_of_digit? value)
  rw [plainDigits_cons, plainDigit_of_some value, digitRow?_digit digit] at h
  obtain ⟨⟨ds, rest⟩, read, rfl⟩ := Option.map_eq_some_iff.mp h
  exact ⟨ds, read, rfl⟩

/-- A row that is read to its end goes on for the whole text.  The induction is on the length, since
an underscore is read together with the digit behind it. -/
theorem goesOn_of_digitRow? (size : Nat) (n : Nat) (t : Text) (bound : t.length ≤ size) {ds : Text}
    (h : digitRow? true (plainDigits t) = some (ds, [])) : GoesOn n t (Decimal.toNatFrom n ds) := by
  induction size generalizing n t ds with
  | zero =>
    obtain rfl := List.length_eq_zero_iff.mp (Nat.le_zero.mp bound)
    cases h
    exact .done n
  | succ size ih =>
    cases t with
    | nil =>
      cases h
      exact .done n
    | cons c t =>
      rw [List.length_cons, Nat.succ_le_succ_iff] at bound
      cases value : Text.digit? c with
      | some d =>
        obtain ⟨ds', read, same⟩ := digitRow?_of_some value h
        obtain rfl : ds = Decimal.digit d :: ds' := same
        rw [toNatFrom_digit (lt_of_digit? value)]
        exact .digit value (ih _ t bound read)
      | none =>
        obtain ⟨same, noDigit⟩ := plainDigit_of_none value
        rw [plainDigits_cons, same] at h
        by_cases underscore : c = '_'
        · subst underscore
          obtain ⟨-, next, t', behind, digit, h⟩ := of_digitRow?_underscore h
          obtain ⟨c, t, rfl, rfl, -⟩ := List.map_eq_cons_iff.mp behind
          obtain ⟨d, value⟩ := exists_digit?_of_plainDigit digit
          obtain ⟨ds', read, same⟩ := digitRow?_of_some value h
          obtain rfl : ds = Decimal.digit d :: ds' := same
          rw [toNatFrom_digit (lt_of_digit? value)]
          exact .underscore value (ih _ t (Nat.le_of_succ_le bound) read)
        · rw [digitRow?_other noDigit underscore] at h
          cases h

theorem row_of_digitRow? {ds : Text} (nonempty : ds ≠ [])
    (h : digitRow? false (plainDigits t) = some (ds, [])) : Row t (Decimal.toNat ds) := by
  cases t with
  | nil =>
    cases h
    exact absurd rfl nonempty
  | cons c t =>
    cases value : Text.digit? c with
    | some d =>
      obtain ⟨ds', read, same⟩ := digitRow?_of_some value h
      obtain rfl : ds = Decimal.digit d :: ds' := same
      rw [Decimal.toNat, toNatFrom_digit (lt_of_digit? value), Nat.mul_zero, Nat.zero_add]
      exact .digits value (goesOn_of_digitRow? t.length d t (Nat.le_refl _) read)
    | none =>
      obtain ⟨same, noDigit⟩ := plainDigit_of_none value
      rw [plainDigits_cons, same] at h
      by_cases underscore : c = '_'
      · subst underscore
        cases (of_digitRow?_underscore h).1
      · rw [digitRow?_other noDigit underscore] at h
        cases h

/-- The sign in front of a numeral does not depend on the script of its digits. -/
theorem sign_plainDigits (t : Text) :
    sign (plainDigits t) = ((sign t).1, plainDigits (sign t).2) := by
  cases t with
  | nil => rfl
  | cons c t =>
    have minus : plainDigit c = '-' ↔ c = '-' := plainDigit_eq_iff (by decide) (by decide)
    have plus : plainDigit c = '+' ↔ c = '+' := plainDigit_eq_iff (by decide) (by decide)
    rw [plainDigits_cons, sign, sign]
    simp only [minus, plus]
    split
    · rfl
    · split <;> rfl

theorem sign_other (minus : c ≠ '-') (plus : c ≠ '+') (t : Text) :
    sign (c :: t) = (false, c :: t) := by
  rw [sign, if_neg minus, if_neg plus]

theorem denotes_of_row (row : Row (sign t).2 n) :
    Denotes t (if (sign t).1 then -(n : Int) else n) := by
  cases t with
  | nil => cases row
  | cons c t =>
    by_cases minus : c = '-'
    · subst minus
      exact .minus row
    by_cases plus : c = '+'
    · subst plus
      exact .plus row
    rw [sign_other minus plus] at row ⊢
    exact .plain row

/-- **What the reader accepts** is what the text without its blanks denotes. -/
theorem denotes_of_integer {z : Int} (h : integer t = .ok z) : Denotes (trim t) z := by
  rw [integer, sign_plainDigits] at h
  dsimp only at h
  cases read : digitRow? false (plainDigits (sign (trim t)).2) with
  | none =>
    rw [read] at h
    cases h
  | some result =>
    obtain ⟨ds, rest⟩ := result
    rw [read] at h
    dsimp only at h
    split at h
    · cases h
    · split at h
      · cases h
      · rename_i whole
        rw [Bool.or_eq_true, not_or] at whole
        have nonempty : ds ≠ [] := fun empty => whole.1 (by rw [empty]; rfl)
        obtain rfl : rest = [] := by simpa using whole.2
        rw [← Except.ok.inj h]
        exact denotes_of_row (row_of_digitRow? nonempty read)

/-! ## What the reader refuses

A row of digits is always read to its end, so a numeral is refused for its length only. -/

theorem digitRow?_of_goesOn (h : GoesOn n t m) : ∃ ds,
    digitRow? true (plainDigits t) = some (ds, []) ∧ Decimal.toNatFrom n ds = m := by
  induction h with
  | done n => exact ⟨[], rfl, rfl⟩
  | @digit n m d c t value more ih =>
    obtain ⟨ds, read, rfl⟩ := ih
    have small := lt_of_digit? value
    refine ⟨Decimal.digit d :: ds, ?_, toNatFrom_digit small n ds⟩
    rw [plainDigits_cons, plainDigit_of_some value,
      digitRow?_digit (Decimal.isAsciiDigit_digit small), read]
    rfl
  | @underscore n m d c t value more ih =>
    obtain ⟨ds, read, rfl⟩ := ih
    have small := lt_of_digit? value
    refine ⟨Decimal.digit d :: ds, ?_, toNatFrom_digit small n ds⟩
    have digit := Decimal.isAsciiDigit_digit small
    have same : plainDigit '_' = '_' := (plainDigit_of_none (by decide)).1
    rw [plainDigits_cons, plainDigits_cons, same, plainDigit_of_some value,
      digitRow?_underscore digit, digitRow?_digit digit, read]
    rfl

theorem digitRow?_of_row (h : Row t n) : ∃ ds, ds ≠ [] ∧
    digitRow? false (plainDigits t) = some (ds, []) ∧ Decimal.toNat ds = n := by
  cases h with
  | @digits n d c t value more =>
    obtain ⟨ds, read, rfl⟩ := digitRow?_of_goesOn more
    have small := lt_of_digit? value
    refine ⟨Decimal.digit d :: ds, List.cons_ne_nil _ _, ?_, ?_⟩
    · rw [plainDigits_cons, plainDigit_of_some value,
        digitRow?_digit (Decimal.isAsciiDigit_digit small), read]
      rfl
    · rw [Decimal.toNat, toNatFrom_digit small, Nat.mul_zero, Nat.zero_add]

/-- What a numeral denotes is the row behind its sign. -/
theorem row_of_denotes {z : Int} (h : Denotes t z) :
    ∃ n : Nat, Row (sign t).2 n ∧ z = if (sign t).1 then -(n : Int) else n := by
  cases h with
  | @plus t n row => exact ⟨n, row, rfl⟩
  | @minus t n row => exact ⟨n, row, rfl⟩
  | @plain t n row =>
    cases t with
    | nil => cases row
    | cons c t =>
      have minus : c ≠ '-' := fun same => by
        subst same
        exact not_row_of_none (by decide) row
      have plus : c ≠ '+' := fun same => by
        subst same
        exact not_row_of_none (by decide) row
      rw [sign_other minus plus]
      exact ⟨n, row, rfl⟩

/-- **What a text denotes** without its blanks is what the reader finds, if it is not too long. -/
theorem integer_of_denotes {z : Int} (h : Denotes (trim t) z) :
    integer t = .ok z ∨ ∃ size, integer t = .error (.tooLong size) := by
  obtain ⟨n, row, rfl⟩ := row_of_denotes h
  obtain ⟨ds, nonempty, read, rfl⟩ := digitRow?_of_row row
  rw [integer, sign_plainDigits]
  dsimp only
  rw [read]
  dsimp only
  by_cases long : digitLimit < ds.length
  · exact .inr ⟨ds.length, if_pos long⟩
  · rw [if_neg long, if_neg (by simp [nonempty])]
    exact .inl rfl

/-! ## What was written -/

theorem plainDigits_of_digits (digits : ∀ c ∈ ds, c.isAsciiDigit = true) : plainDigits ds = ds := by
  have same : ∀ c ∈ ds, plainDigit c = id c := by
    intro c mem
    have range := CodePoint.isAsciiDigit_iff.mp (digits c mem)
    have value := Decimal.val_digit (k := c.val - 0x30) (by omega)
    rw [plainDigit_of_some (digit?_of_isAsciiDigit (digits c mem))]
    exact Fin.ext (by simp only [id]; omega)
  exact (List.map_congr_left same).trans (List.map_id ds)

theorem digitRow?_of_digits (digits : ∀ c ∈ ds, c.isAsciiDigit = true) (afterDigit : Bool) :
    digitRow? afterDigit ds = some (ds, []) := by
  induction ds generalizing afterDigit with
  | nil => rfl
  | cons c ds ih =>
    have rest := ih (fun d mem => digits d (List.mem_cons_of_mem c mem)) true
    rw [digitRow?_digit (digits c (List.mem_cons_self ..)), rest]
    rfl

/-- **A number that is written** is read, if it is not too long. -/
theorem integer_ofNat (short : (Decimal.ofNat n).length ≤ digitLimit) :
    integer (Decimal.ofNat n) = .ok n := by
  have digits : ∀ c ∈ Decimal.ofNat n, c.isAsciiDigit = true :=
    fun _ mem => Decimal.isAsciiDigit_of_mem_ofNat mem
  have bare : Text.strip (Decimal.ofNat n) = Decimal.ofNat n :=
    Text.strip_of_visible fun c mem => Text.isBlank_of_isAsciiDigit (digits c mem)
  have trimmed : trim (Decimal.ofNat n) = Decimal.ofNat n := by
    have trimmed := Text.trim_strip (Decimal.ofNat n)
    rwa [bare] at trimmed
  obtain ⟨c, ds, written, -⟩ := Decimal.exists_head_ofNat n
  have unsigned : sign (Decimal.ofNat n) = (false, Decimal.ofNat n) := by
    have digit := digits c (written ▸ List.mem_cons_self ..)
    rw [written]
    exact sign_other (CodePoint.ne_of_isAsciiDigit digit (by decide))
      (CodePoint.ne_of_isAsciiDigit digit (by decide)) ds
  have nonempty : (Decimal.ofNat n).isEmpty = false := by rw [written]; rfl
  unfold integer
  rw [trimmed, plainDigits_of_digits digits, unsigned]
  dsimp only
  rw [digitRow?_of_digits digits]
  dsimp only
  rw [if_neg (Nat.not_lt.mpr short), nonempty, if_neg (by decide), Decimal.toNat_ofNat]
  rfl

/-- What is read as a row of digits consists of digits. -/
theorem isAsciiDigit_of_digitRow? (afterDigit : Bool) (t : Text) {read : Text × Text}
    (h : digitRow? afterDigit t = some read) : ∀ c ∈ read.1, c.isAsciiDigit = true := by
  induction t generalizing afterDigit read with
  | nil =>
    cases h
    exact fun c mem => nomatch mem
  | cons c t ih =>
    by_cases digit : c.isAsciiDigit = true
    · rw [digitRow?_digit digit] at h
      obtain ⟨⟨ds, rest⟩, more, rfl⟩ := Option.map_eq_some_iff.mp h
      intro d mem
      rcases List.mem_cons.mp mem with rfl | mem
      · exact digit
      · exact ih true more d mem
    · by_cases underscore : c = '_'
      · subst underscore
        obtain ⟨-, -, -, -, -, more⟩ := of_digitRow?_underscore h
        exact ih false more
      · rw [digitRow?_other (Bool.eq_false_iff.mpr digit) underscore] at h
        cases h
        exact fun d mem => nomatch mem

/-- **A number that is accepted** is not too long when it is written. -/
theorem length_ofNat_of_integer (h : integer t = .ok n) :
    (Decimal.ofNat n).length ≤ digitLimit := by
  unfold integer at h
  dsimp only at h
  split at h
  · cases h
  · rename_i ds rest read
    have digits := isAsciiDigit_of_digitRow? _ _ read
    split at h
    · cases h
    · rename_i short
      split at h
      · cases h
      · rename_i whole
        have some : 0 < ds.length := by
          refine List.length_pos_iff.mpr fun empty => whole ?_
          rw [empty]
          rfl
        have bound : Decimal.toNat ds < 10 ^ ds.length := Decimal.toNat_lt digits
        have below : n < 10 ^ ds.length := by
          have value := Except.ok.inj h
          split at value <;> omega
        exact Nat.le_trans (Decimal.length_ofNat_le some below) (Nat.not_lt.mp short)

end Literal
end OpenBroker
