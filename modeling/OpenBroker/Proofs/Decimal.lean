import OpenBroker.Number.Decimal

/-! # Numbers and their digits

The digits of a number are those of its tenth and one more (`ofNat_of_le`), down to a number
with a single digit.  Everything else about them follows along this: what they are the digits
of (`toNat_ofNat`), that a row of several does not begin with a zero (`exists_head_ofNat`), and
how many there are (`length_ofNat_le`).
-/
namespace OpenBroker
namespace Decimal

variable {n k : Nat}

theorem digitsOnto_of_lt (single : n < 10) (tail : Text) :
    digitsOnto n tail = digit n :: tail := by
  rw [digitsOnto, if_pos single]

theorem digitsOnto_of_le (several : 10 ≤ n) (tail : Text) :
    digitsOnto n tail = digitsOnto (n / 10) (digit (n % 10) :: tail) := by
  rw [digitsOnto, if_neg (Nat.not_lt.mpr several)]

theorem digitsOnto_eq_append (n : Nat) (tail : Text) : digitsOnto n tail = ofNat n ++ tail := by
  induction n using Nat.strongRecOn generalizing tail with
  | ind n ih =>
    rw [ofNat]
    by_cases single : n < 10
    · rw [digitsOnto_of_lt single, digitsOnto_of_lt single]
      rfl
    · have several := Nat.not_lt.mp single
      have smaller : n / 10 < n := by omega
      rw [digitsOnto_of_le several, digitsOnto_of_le several, ih _ smaller, ih _ smaller,
        List.append_assoc]
      rfl

theorem ofNat_of_lt (single : n < 10) : ofNat n = [digit n] := digitsOnto_of_lt single []

/-- **The digits of a number** are those of its tenth, and one more. -/
theorem ofNat_of_le (several : 10 ≤ n) : ofNat n = ofNat (n / 10) ++ [digit (n % 10)] := by
  rw [ofNat, digitsOnto_of_le several, digitsOnto_eq_append]

theorem val_digit (single : k < 10) : (digit k).val = 0x30 + k :=
  CodePoint.val_ofNat (by omega)

theorem isAsciiDigit_digit (single : k < 10) : (digit k).isAsciiDigit = true := by
  have val := val_digit single
  rw [CodePoint.isAsciiDigit_iff]
  omega

theorem isAsciiDigit_of_mem_ofNat {c : CodePoint} (h : c ∈ ofNat n) : c.isAsciiDigit = true := by
  induction n using Nat.strongRecOn with
  | ind n ih =>
    by_cases single : n < 10
    · rw [ofNat_of_lt single] at h
      rw [List.mem_singleton.mp h]
      exact isAsciiDigit_digit single
    · rw [ofNat_of_le (Nat.not_lt.mp single)] at h
      rcases List.mem_append.mp h with h | h
      · exact ih _ (by omega) h
      · rw [List.mem_singleton.mp h]
        exact isAsciiDigit_digit (Nat.mod_lt _ (by decide))

/-- A number has a first digit, and it is no zero unless the number is. -/
theorem exists_head_ofNat (n : Nat) :
    ∃ c rest, ofNat n = c :: rest ∧ (c = '0' → n = 0) := by
  induction n using Nat.strongRecOn with
  | ind n ih =>
    by_cases single : n < 10
    · refine ⟨digit n, [], ofNat_of_lt single, fun zero => ?_⟩
      have val := val_digit single
      have code : ('0' : CodePoint).val = 0x30 := by decide
      rw [zero, code] at val
      omega
    · obtain ⟨c, rest, digits, nonzero⟩ := ih (n / 10) (by omega)
      refine ⟨c, rest ++ [digit (n % 10)], ?_, fun zero => ?_⟩
      · rw [ofNat_of_le (Nat.not_lt.mp single), digits, List.cons_append]
      · have := nonzero zero
        omega

/-- An integer begins with a digit, or with a sign and a digit. -/
theorem exists_head_ofInt (n : Int) :
    ∃ c ds, c.isAsciiDigit = true ∧
      (ofInt n = c :: ds ∨ ofInt n = CodePoint.ofChar '-' :: c :: ds) := by
  obtain ⟨c, ds, written, -⟩ := exists_head_ofNat n.natAbs
  refine ⟨c, ds, isAsciiDigit_of_mem_ofNat (written ▸ List.mem_cons_self ..), ?_⟩
  cases n with
  | ofNat k => exact .inl written
  | negSucc k => exact .inr (congrArg (CodePoint.ofChar '-' :: ·) written)

theorem toNat_append_digit (ds : Text) (single : k < 10) :
    toNat (ds ++ [digit k]) = 10 * toNat ds + k := by
  simp only [toNat, toNatFrom, List.foldl_append, List.foldl_cons, List.foldl_nil,
    val_digit single, Nat.add_sub_cancel_left]

/-- **A number is read back** from its digits. -/
theorem toNat_ofNat (n : Nat) : toNat (ofNat n) = n := by
  induction n using Nat.strongRecOn with
  | ind n ih =>
    by_cases single : n < 10
    · rw [ofNat_of_lt single, ← List.nil_append [digit n], toNat_append_digit [] single]
      simp [toNat, toNatFrom]
    · rw [ofNat_of_le (Nat.not_lt.mp single), toNat_append_digit _ (Nat.mod_lt _ (by decide)),
        ih _ (by omega)]
      omega

theorem toNatFrom_lt {ds : Text} (digits : ∀ c ∈ ds, c.isAsciiDigit = true) (start : Nat) :
    toNatFrom start ds < (start + 1) * Nat.pow 10 ds.length := by
  induction ds generalizing start with
  | nil => exact Nat.lt_of_lt_of_eq (Nat.lt_succ_self start) (Nat.mul_one _).symm
  | cons d ds ih =>
    have range := CodePoint.isAsciiDigit_iff.mp (digits d (List.mem_cons_self ..))
    have next : 10 * start + (d.val - 0x30) + 1 ≤ (start + 1) * 10 := by omega
    have power : Nat.pow 10 (ds.length + 1) = 10 * Nat.pow 10 ds.length := Nat.pow_succ'
    calc toNatFrom start (d :: ds)
        < (10 * start + (d.val - 0x30) + 1) * Nat.pow 10 ds.length :=
          ih (fun c mem => digits c (List.mem_cons_of_mem d mem)) _
      _ ≤ (start + 1) * 10 * Nat.pow 10 ds.length := Nat.mul_le_mul_right _ next
      _ = (start + 1) * Nat.pow 10 (d :: ds).length := by
          rw [List.length_cons, power, Nat.mul_assoc]

/-- A number has no more digits than a row of digits that it is read from. -/
theorem toNat_lt {ds : Text} (digits : ∀ c ∈ ds, c.isAsciiDigit = true) :
    toNat ds < Nat.pow 10 ds.length := by
  have bound := toNatFrom_lt digits 0
  rwa [Nat.zero_add, Nat.one_mul] at bound

/-- A number below a power of ten has no more digits than the exponent says. -/
theorem length_ofNat_le (positive : 0 < k) (h : n < Nat.pow 10 k) : (ofNat n).length ≤ k := by
  induction k generalizing n with
  | zero => exact absurd positive (Nat.lt_irrefl 0)
  | succ k ih =>
    by_cases single : n < 10
    · rw [ofNat_of_lt single]
      exact Nat.le_add_left 1 k
    · have tenth : n / 10 < Nat.pow 10 k := by
        have power : Nat.pow 10 (k + 1) = Nat.pow 10 k * 10 := rfl
        rw [power] at h
        omega
      have more : 0 < k := by
        rcases Nat.eq_zero_or_pos k with rfl | more
        · exact absurd h single
        · exact more
      rw [ofNat_of_le (Nat.not_lt.mp single), List.length_append, List.length_singleton]
      exact Nat.add_le_add_right (ih more tenth) 1

/-- A number with so many digits is below a power of ten. -/
theorem lt_pow_of_length_ofNat_le (h : (ofNat n).length ≤ k) : n < Nat.pow 10 k := by
  induction k generalizing n with
  | zero =>
    obtain ⟨c, rest, digits, -⟩ := exists_head_ofNat n
    rw [digits] at h
    exact absurd h (Nat.not_succ_le_zero _)
  | succ k ih =>
    have power : Nat.pow 10 (k + 1) = Nat.pow 10 k * 10 := rfl
    by_cases single : n < 10
    · have positive : 0 < Nat.pow 10 k := Nat.pow_pos (by decide)
      omega
    · rw [ofNat_of_le (Nat.not_lt.mp single), List.length_append, List.length_singleton] at h
      have tenth := ih (Nat.le_of_succ_le_succ h)
      omega

end Decimal
end OpenBroker
