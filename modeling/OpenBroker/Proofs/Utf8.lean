import OpenBroker.Proofs.Except
import OpenBroker.Text.Utf8

/-! # What was encoded is decoded, and nothing else

The bytes of a scalar value are one piece, whatever bytes follow (`pieces_encodePoint`).  A
lead byte opens a sequence with the bits it carries and a range for the byte behind it; the
range is narrower than that of other bytes exactly where a shorter sequence, a surrogate or a
number that is too large would be spelled, and no scalar value is encoded that way
(`Opens`).

The other way round, a piece that is a code point consists of the bytes of this code point, which
is a scalar value: each of the three kinds of lead bytes leaves the bytes behind it no other
choice (`Shape`).  So bytes that are decoded are the encoding of a text (`encode_of_decode`).
-/
namespace OpenBroker
namespace Utf8

/-- A byte begins a sequence with some bits, and allows a byte behind it with some more. -/
def Opens (b : UInt8) (bits missing next : Nat) : Prop :=
  ∃ low high, lead b = .inr ⟨bits, missing, low, high, 1⟩ ∧ low ≤ 0x80 + next ∧ 0x80 + next ≤ high

variable {n bits missing low high width next : Nat} {rest : List UInt8} {c : CodePoint}

theorem toNat_ofNat (h : n < 0x100) : (UInt8.ofNat n).toNat = n :=
  UInt8.toNat_ofNat_of_lt' h

theorem lead_of_lt (h : n < 0x80) :
    lead (UInt8.ofNat n) = .inl (.point (CodePoint.ofNat n)) := by
  simp [lead, toNat_ofNat (n := n) (by omega), h]

theorem opens_two (h : 2 ≤ n) (h' : n < 0x20) (fits : next < 0x40) :
    Opens (UInt8.ofNat (0xC0 + n)) n 1 next := by
  refine ⟨0x80, 0xBF, ?_, by omega, by omega⟩
  unfold lead
  rw [toNat_ofNat (by omega)]
  simp only
  rw [if_neg (by omega), if_neg (by omega), if_pos (by omega), Nat.add_sub_cancel_left]

/-- Three bytes spell no number below `0x800`, and none of the surrogates. -/
theorem opens_three (h : n < 0x10) (fits : next < 0x40) (long : n = 0 → 0x20 ≤ next)
    (scalar : n = 0xD → next < 0x20) : Opens (UInt8.ofNat (0xE0 + n)) n 2 next := by
  unfold Opens lead
  rw [toNat_ofNat (by omega)]
  simp only
  rw [if_neg (by omega), if_neg (by omega), if_neg (by omega)]
  by_cases zero : n = 0
  · rw [if_pos (by omega)]
    exact ⟨0xA0, 0xBF, by rw [zero], by have := long zero; omega, by omega⟩
  · rw [if_neg (by omega)]
    by_cases surrogates : n = 0xD
    · rw [if_pos (by omega)]
      exact ⟨0x80, 0x9F, by rw [surrogates], by omega, by have := scalar surrogates; omega⟩
    · rw [if_neg (by omega), if_pos (by omega), Nat.add_sub_cancel_left]
      exact ⟨0x80, 0xBF, rfl, by omega, by omega⟩

/-- Four bytes spell no number below `0x10000`, and none from `0x110000` on. -/
theorem opens_four (h : n < 5) (fits : next < 0x40) (long : n = 0 → 0x10 ≤ next)
    (small : n = 4 → next < 0x10) : Opens (UInt8.ofNat (0xF0 + n)) n 3 next := by
  unfold Opens lead
  rw [toNat_ofNat (by omega)]
  simp only
  rw [if_neg (by omega), if_neg (by omega), if_neg (by omega), if_neg (by omega),
    if_neg (by omega), if_neg (by omega)]
  by_cases zero : n = 0
  · rw [if_pos (by omega)]
    exact ⟨0x90, 0xBF, by rw [zero], by have := long zero; omega, by omega⟩
  · rw [if_neg (by omega)]
    by_cases last : n = 4
    · rw [if_neg (by omega), if_pos (by omega)]
      exact ⟨0x80, 0x8F, by rw [last], by omega, by have := small last; omega⟩
    · rw [if_pos (by omega), Nat.add_sub_cancel_left]
      exact ⟨0x80, 0xBF, rfl, by omega, by omega⟩

/-- A byte in its range adds six bits to an open sequence. -/
theorem continue?_tail (fits : next < 0x40) (above : low ≤ 0x80 + next)
    (below : 0x80 + next ≤ high) :
    (⟨bits, missing, low, high, width⟩ : Unfinished).continue? (UInt8.ofNat (0x80 + next)) =
      if missing ≤ 1 then some (.inl (.point (CodePoint.ofNat (bits * 0x40 + next))))
      else some (.inr ⟨bits * 0x40 + next, missing - 1, 0x80, 0xBF, width + 1⟩) := by
  have six : (0x80 + next) % 0x40 = next := by omega
  simp only [Unfinished.continue?, toNat_ofNat (n := 0x80 + next) (by omega), six]
  rw [if_pos ⟨above, below⟩]

/-- The byte behind a lead byte, where a second one is enough. -/
theorem pieces_opened_two {b : UInt8} (opens : Opens b bits 1 next) (fits : next < 0x40) :
    pieces none (b :: UInt8.ofNat (0x80 + next) :: rest) =
      .point (CodePoint.ofNat (bits * 0x40 + next)) :: pieces none rest := by
  obtain ⟨low, high, lead, above, below⟩ := opens
  rw [pieces, lead]
  dsimp only
  rw [pieces, continue?_tail fits above below, if_pos (Nat.le_refl 1)]

/-- The byte behind a lead byte, where more have to follow. -/
theorem pieces_opened {b : UInt8} (opens : Opens b bits missing next) (fits : next < 0x40)
    (more : 1 < missing) :
    pieces none (b :: UInt8.ofNat (0x80 + next) :: rest) =
      pieces (some ⟨bits * 0x40 + next, missing - 1, 0x80, 0xBF, 2⟩) rest := by
  obtain ⟨low, high, lead, above, below⟩ := opens
  rw [pieces, lead]
  dsimp only
  rw [pieces, continue?_tail fits above below, if_neg (by omega)]

theorem pieces_last (fits : next < 0x40) :
    pieces (some ⟨bits, 1, 0x80, 0xBF, width⟩) (UInt8.ofNat (0x80 + next) :: rest) =
      .point (CodePoint.ofNat (bits * 0x40 + next)) :: pieces none rest := by
  rw [pieces, continue?_tail fits (by omega) (by omega), if_pos (Nat.le_refl 1)]

theorem pieces_further (fits : next < 0x40) (more : 1 < missing) :
    pieces (some ⟨bits, missing, 0x80, 0xBF, width⟩) (UInt8.ofNat (0x80 + next) :: rest) =
      pieces (some ⟨bits * 0x40 + next, missing - 1, 0x80, 0xBF, width + 1⟩) rest := by
  rw [pieces, continue?_tail fits (by omega) (by omega), if_neg (by omega)]

theorem ofNat_eq (same : n = c.val) : CodePoint.ofNat n = c := by
  rw [same, CodePoint.ofNat_val]

/-- **The bytes of a scalar value** are one piece, and the bytes behind them do not matter. -/
theorem pieces_encodePoint (scalar : c.isScalar = true) :
    pieces none (encodePoint c ++ rest) = .point c :: pieces none rest := by
  have bound := c.isLt
  rw [CodePoint.isScalar_iff] at scalar
  -- for each length: the lead byte opens the sequence, each byte behind it adds six bits, and
  -- the bits put together are the number
  unfold encodePoint
  dsimp only
  by_cases one : c.val < 0x80
  · rw [if_pos one, List.singleton_append, pieces, lead_of_lt one, ofNat_eq (c := c) rfl]
  rw [if_neg one]
  by_cases two : c.val < 0x800
  · have opens : Opens (UInt8.ofNat (0xC0 + c.val / 0x40)) (c.val / 0x40) 1 (c.val % 0x40) :=
      opens_two (by omega) (by omega) (by omega)
    rw [if_pos two, List.cons_append, List.singleton_append,
      pieces_opened_two opens (by omega), ofNat_eq (c := c) (by omega)]
  rw [if_neg two]
  by_cases three : c.val < 0x10000
  · have opens : Opens (UInt8.ofNat (0xE0 + c.val / 0x1000)) (c.val / 0x1000) 2
        (c.val / 0x40 % 0x40) := opens_three (by omega) (by omega) (by omega) (by omega)
    rw [if_pos three, List.cons_append, List.cons_append, List.singleton_append,
      pieces_opened opens (by omega) (by omega), pieces_last (by omega),
      ofNat_eq (c := c) (by omega)]
  · have opens : Opens (UInt8.ofNat (0xF0 + c.val / 0x40000)) (c.val / 0x40000) 3
        (c.val / 0x1000 % 0x40) := opens_four (by omega) (by omega) (by omega) (by omega)
    rw [if_neg three, List.cons_append, List.cons_append, List.cons_append, List.singleton_append,
      pieces_opened opens (by omega) (by omega), pieces_further (by omega) (by omega),
      pieces_last (by omega), ofNat_eq (c := c) (by omega)]

variable {t : Text}

/-- The pieces of an encoded text are its code points. -/
theorem pieces_encode (scalar : ∀ c ∈ t, c.isScalar = true) :
    pieces none (encode t) = t.map .point := by
  induction t with
  | nil => rfl
  | cons c rest ih =>
    have more := ih fun d hd => scalar d (List.mem_cons_of_mem _ hd)
    rw [encode, List.flatMap_cons, pieces_encodePoint (scalar c (List.mem_cons_self ..)),
      ← encode, more, List.map_cons]

theorem assemble_points (position : Nat) (t : Text) :
    assemble position (t.map .point) = .ok t := by
  induction t generalizing position with
  | nil => rfl
  | cons c rest ih =>
    rw [List.map_cons, assemble, ih]
    rfl

/-- **What was encoded is decoded.** -/
theorem decode_encode (scalar : ∀ c ∈ t, c.isScalar = true) : decode (encode t) = .ok t := by
  rw [decode, pieces_encode scalar, assemble_points]

/-- Texts of scalar values with the same bytes are the same. -/
theorem eq_of_encode_eq {t' : Text} (scalar : ∀ c ∈ t, c.isScalar = true)
    (scalar' : ∀ c ∈ t', c.isScalar = true) (same : encode t = encode t') : t = t' := by
  have decoded := decode_encode scalar
  rw [same, decode_encode scalar'] at decoded
  exact (Except.ok.inj decoded).symm

/-! ## What is decoded was encoded -/

variable {b : UInt8} {u : Unfinished} {bs tail : List UInt8}

/-- **Shape** of what a lead byte opens: a sequence of two bytes, of three, or of four. -/
inductive Shape (b : UInt8) : Unfinished → Prop
  | two {bits : Nat} (opens : b.toNat = 0xC0 + bits) (long : 2 ≤ bits) (below : bits < 0x20) :
    Shape b ⟨bits, 1, 0x80, 0xBF, 1⟩
  | three {bits low high : Nat} (opens : b.toNat = 0xE0 + bits) (below : bits < 0x10)
    (least : 0x80 ≤ low) (most : high ≤ 0xBF) (long : bits = 0 → 0xA0 ≤ low)
    (scalar : bits = 0xD → high ≤ 0x9F) : Shape b ⟨bits, 2, low, high, 1⟩
  | four {bits low high : Nat} (opens : b.toNat = 0xF0 + bits) (below : bits < 5)
    (least : 0x80 ≤ low) (most : high ≤ 0xBF) (long : bits = 0 → 0x90 ≤ low)
    (small : bits = 4 → high ≤ 0x8F) : Shape b ⟨bits, 3, low, high, 1⟩

theorem shape_of_lead (opened : lead b = .inr u) : Shape b u := by
  unfold lead at opened
  dsimp only at opened
  repeat' split at opened
  all_goals simp only [Sum.inr.injEq, reduceCtorEq] at opened
  all_goals subst opened
  -- in the order of the lead bytes; where one of them alone is special, its bits are written out
  · exact .two (by omega) (by omega) (by omega)
  · exact .three (by omega) (by omega) (by omega) (by omega) (by omega) (by omega)
  · exact .three (by omega) (by omega) (by omega) (by omega) (by omega) (by omega)
  · exact .three (by omega) (by omega) (by omega) (by omega) (by omega) (by omega)
  · exact .four (by omega) (by omega) (by omega) (by omega) (by omega) (by omega)
  · exact .four (by omega) (by omega) (by omega) (by omega) (by omega) (by omega)
  · exact .four (by omega) (by omega) (by omega) (by omega) (by omega) (by omega)

theorem ofNat_eq_byte (same : n = b.toNat) : UInt8.ofNat n = b := by
  rw [same, UInt8.ofNat_toNat]

/-- A byte that is a sequence of its own is the encoding of a scalar value. -/
theorem encodePoint_of_lead (whole : lead b = .inl (.point c)) :
    c.isScalar = true ∧ encodePoint c = [b] := by
  have one : b.toNat < 0x80 ∧ c = CodePoint.ofNat b.toNat := by
    unfold lead at whole
    dsimp only at whole
    repeat' split at whole
    all_goals cases whole
    exact ⟨by omega, rfl⟩
  have number : c.val = b.toNat := by
    rw [one.2]
    exact CodePoint.val_ofNat (by omega)
  refine ⟨CodePoint.isScalar_iff.mpr (by omega), ?_⟩
  simp only [encodePoint, if_pos (show c.val < 0x80 by omega), ofNat_eq_byte number]

/-- **Completes**: bytes that continue an open sequence to its end, and the code point then
read. -/
inductive Completes : Unfinished → List UInt8 → CodePoint → Prop
  | last {bits low high width : Nat} {x : UInt8} (above : low ≤ x.toNat) (below : x.toNat ≤ high) :
    Completes ⟨bits, 1, low, high, width⟩ [x] (CodePoint.ofNat (bits * 0x40 + x.toNat % 0x40))
  | further {bits missing low high width : Nat} {x : UInt8} {tail : List UInt8} {c : CodePoint}
    (above : low ≤ x.toNat) (below : x.toNat ≤ high)
    (others : Completes ⟨bits * 0x40 + x.toNat % 0x40, missing + 1, 0x80, 0xBF, width + 1⟩ tail c) :
    Completes ⟨bits, missing + 2, low, high, width⟩ (x :: tail) c

/-- Of a text that is read behind an open sequence, the first code point completes it. -/
theorem exists_completes
    (read : pieces (some ⟨bits, missing + 1, low, high, width⟩) bs = t.map .point) :
    ∃ tail rest c t', Completes ⟨bits, missing + 1, low, high, width⟩ tail c ∧
      bs = tail ++ rest ∧ t = c :: t' ∧ pieces none rest = t'.map .point := by
  induction bs generalizing bits missing low high width with
  | nil => cases t <;> cases read
  | cons x bs ih =>
    rw [pieces, Unfinished.continue?] at read
    dsimp only at read
    by_cases range : low ≤ x.toNat ∧ x.toNat ≤ high
    · rw [if_pos range] at read
      cases missing with
      | zero =>
        rw [if_pos (Nat.le_refl _)] at read
        cases t with
        | nil => cases read
        | cons c t =>
          obtain ⟨first, rest⟩ := List.cons.inj read
          cases first
          exact ⟨[x], bs, _, t, .last range.1 range.2, rfl, rfl, rest⟩
      | succ missing =>
        rw [if_neg (by omega)] at read
        obtain ⟨tail, rest, c, t', others, rfl, rfl, behind⟩ := ih read
        exact ⟨x :: tail, rest, c, t', .further range.1 range.2 others, rfl, rfl, behind⟩
    · rw [if_neg range] at read
      cases t <;> cases read

/-- **The bytes of a completed sequence** are those of the code point, which is a scalar value. -/
theorem encodePoint_of_completes (shape : Shape b u) (completes : Completes u tail c) :
    c.isScalar = true ∧ encodePoint c = b :: tail := by
  -- the bits put together are below the bound of the length, and not below the one before; taken
  -- apart again they are the bytes
  cases shape with
  | @two bits opens long below =>
    cases completes with | @last _ _ _ _ x above below =>
    have number := CodePoint.val_ofNat (n := bits * 0x40 + x.toNat % 0x40) (by omega)
    refine ⟨CodePoint.isScalar_iff.mpr (by omega), ?_⟩
    rw [encodePoint, number, if_neg (by omega), if_pos (by omega),
      ofNat_eq_byte (b := b) (by omega), ofNat_eq_byte (b := x) (by omega)]
  | @three bits low high opens below least most long scalar =>
    cases completes with | @further _ _ _ _ _ x _ _ above below others =>
    cases others with | @last _ _ _ _ y above' below' =>
    have number := CodePoint.val_ofNat
      (n := (bits * 0x40 + x.toNat % 0x40) * 0x40 + y.toNat % 0x40) (by omega)
    refine ⟨CodePoint.isScalar_iff.mpr (by omega), ?_⟩
    rw [encodePoint, number, if_neg (by omega), if_neg (by omega), if_pos (by omega),
      ofNat_eq_byte (b := b) (by omega), ofNat_eq_byte (b := x) (by omega),
      ofNat_eq_byte (b := y) (by omega)]
  | @four bits low high opens below least most long small =>
    cases completes with | @further _ _ _ _ _ x _ _ above below others =>
    cases others with | @further _ _ _ _ _ y _ _ above' below' others =>
    cases others with | @last _ _ _ _ z above'' below'' =>
    have number := CodePoint.val_ofNat
      (n := ((bits * 0x40 + x.toNat % 0x40) * 0x40 + y.toNat % 0x40) * 0x40 + z.toNat % 0x40)
      (by omega)
    refine ⟨CodePoint.isScalar_iff.mpr (by omega), ?_⟩
    rw [encodePoint, number, if_neg (by omega), if_neg (by omega), if_neg (by omega),
      ofNat_eq_byte (b := b) (by omega), ofNat_eq_byte (b := x) (by omega),
      ofNat_eq_byte (b := y) (by omega), ofNat_eq_byte (b := z) (by omega)]

/-- One code point less of a text that is read. -/
theorem exists_rest_of_pieces (read : pieces none (b :: bs) = t.map .point) :
    ∃ tail rest c t', bs = tail ++ rest ∧ t = c :: t' ∧ c.isScalar = true ∧
      encodePoint c = b :: tail ∧ pieces none rest = t'.map .point := by
  rw [pieces] at read
  cases begins : lead b with
  | inl p =>
    rw [begins] at read
    cases t with
    | nil => cases read
    | cons c t =>
      obtain ⟨rfl, rest⟩ := List.cons.inj read
      obtain ⟨scalar, bytes⟩ := encodePoint_of_lead begins
      exact ⟨[], bs, c, t, rfl, rfl, scalar, bytes, rest⟩
  | inr u =>
    rw [begins] at read
    have shape := shape_of_lead begins
    have completed : ∃ tail rest c t', Completes u tail c ∧ bs = tail ++ rest ∧ t = c :: t' ∧
        pieces none rest = t'.map .point := by
      cases shape <;> exact exists_completes read
    obtain ⟨tail, rest, c, t', completes, whole, rfl, behind⟩ := completed
    obtain ⟨scalar, bytes⟩ := encodePoint_of_completes shape completes
    exact ⟨tail, rest, c, t', whole, rfl, scalar, bytes, behind⟩

/-- Bytes whose pieces are all code points are the encoding of these. -/
theorem encode_of_pieces (read : pieces none bs = t.map .point) :
    encode t = bs ∧ ∀ c ∈ t, c.isScalar = true := by
  -- by the text and not by the bytes, of which a code point takes several at once
  induction t generalizing bs with
  | nil =>
    cases bs with
    | nil => exact ⟨rfl, nofun⟩
    | cons b bs =>
      obtain ⟨_, _, _, _, _, some, _⟩ := exists_rest_of_pieces read
      cases some
  | cons c t ih =>
    cases bs with
    | nil => cases read
    | cons b bs =>
      obtain ⟨tail, rest, _, _, rfl, same, first, bytes, behind⟩ := exists_rest_of_pieces read
      cases same
      obtain ⟨whole, scalar⟩ := ih behind
      refine ⟨?_, List.forall_mem_cons.mpr ⟨first, scalar⟩⟩
      rw [encode, List.flatMap_cons, ← encode, bytes, whole, List.cons_append]

theorem eq_points_of_assemble {position : Nat} {ps : List Piece}
    (assembled : assemble position ps = .ok t) : ps = t.map .point := by
  induction ps generalizing position t with
  | nil =>
    cases assembled
    rfl
  | cons p ps ih =>
    cases p with
    | bad => cases assembled
    | point c =>
      obtain ⟨t', behind, rfl⟩ := exists_of_map_eq_ok assembled
      rw [List.map_cons, ih behind]

/-- **What is decoded was encoded**, and there are only scalar values in it. -/
theorem encode_of_decode (decoded : decode bs = .ok t) :
    encode t = bs ∧ ∀ c ∈ t, c.isScalar = true :=
  encode_of_pieces (eq_points_of_assemble decoded)

end Utf8
end OpenBroker
