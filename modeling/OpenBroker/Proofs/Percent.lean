import OpenBroker.Client.Url
import OpenBroker.Proofs.Utf8

/-! # Percent-encoded texts

What was encoded is decoded (`decode_encode`), whatever characters stood for themselves: every
byte of an encoded character is read back from its escape, and all other bytes are passed over,
as long as no percent sign stands among them.

An address is put together from encoded parts and then looked over once more, when escapes that
are not needed are decoded and what is missing is encoded.  Of the parts only their form matters
there: each percent sign begins the escape of a character that has to be escaped (`Escaped`).
Such a text has no escape to decode (`decodeUnreserved?_of_escaped`), and texts of this form can be
put together, cut and encoded without losing it.
-/
namespace OpenBroker

namespace Utf8

variable {c : CodePoint} {b : UInt8}

theorem encodePoint_of_lt (ascii : c.val < 0x80) : encodePoint c = [UInt8.ofNat c.val] := by
  rw [encodePoint]
  exact if_pos ascii

/-- A character outside ASCII has no byte of ASCII. -/
theorem le_toNat_of_mem_encodePoint (outside : 0x80 ≤ c.val) (h : b ∈ encodePoint c) :
    0x80 ≤ b.toNat := by
  have small := c.isLt
  have byte : ∀ n, 0x80 ≤ n → n < 0x100 → 0x80 ≤ (UInt8.ofNat n).toNat := by
    intro n low high
    rw [toNat_ofNat high]
    exact low
  rw [encodePoint, if_neg (by omega)] at h
  split at h
  · simp only [List.mem_cons, List.not_mem_nil, or_false] at h
    rcases h with rfl | rfl <;> exact byte _ (by omega) (by omega)
  · split at h
    · simp only [List.mem_cons, List.not_mem_nil, or_false] at h
      rcases h with rfl | rfl | rfl <;> exact byte _ (by omega) (by omega)
    · simp only [List.mem_cons, List.not_mem_nil, or_false] at h
      rcases h with rfl | rfl | rfl | rfl <;> exact byte _ (by omega) (by omega)

theorem encode_append (t u : Text) : encode (t ++ u) = encode t ++ encode u :=
  List.flatMap_append

end Utf8

namespace Percent

variable {c : CodePoint} {t u : Text} {m n : Nat} {keeps : CodePoint → Bool}

/-! ## Digits -/

theorem hexValue?_digit : ∀ n < 16, (digit n).hexValue? = some n := by decide

theorem isUnreserved_digit : ∀ n < 16, isUnreserved (digit n) = true := by decide

theorem digit_ne_percent : ∀ n < 16, digit n ≠ '%' := by decide

/-- The digits of a byte, themselves as bytes. -/
theorem digit_byte : ∀ n < 16, Utf8.encodePoint (digit n) = [UInt8.ofNat (digit n).val] ∧
    hexValue? (UInt8.ofNat (digit n).val) = some n := by decide

theorem digits_toNat (b : UInt8) : b.toNat / 16 < 16 ∧ b.toNat % 16 < 16 ∧
    16 * (b.toNat / 16) + b.toNat % 16 = b.toNat := by
  have := b.toNat_lt
  omega

/-! ## Decoding what was encoded -/

theorem decodeBytes_cons_of_ne {b : UInt8} (ne : b ≠ 0x25) (rest : List UInt8) :
    decodeBytes (b :: rest) = b :: decodeBytes rest := by
  match rest with
  | [] => rfl
  | [_] => rfl
  | _ :: _ :: _ => rw [decodeBytes, if_neg ne]

theorem decodeBytes_append_of_ne {bs : List UInt8} (ne : ∀ b ∈ bs, b ≠ 0x25) (rest : List UInt8) :
    decodeBytes (bs ++ rest) = bs ++ decodeBytes rest := by
  induction bs with
  | nil => rfl
  | cons b bs ih =>
    rw [List.cons_append, decodeBytes_cons_of_ne (ne b (List.mem_cons_self ..)),
      ih fun d hd => ne d (List.mem_cons_of_mem _ hd), List.cons_append]

/-- An escape is read back as the byte that it stands for. -/
theorem decodeBytes_encodeByte (b : UInt8) (rest : List UInt8) :
    decodeBytes (Utf8.encode (encodeByte b) ++ rest) = b :: decodeBytes rest := by
  obtain ⟨high, low, whole⟩ := digits_toNat b
  obtain ⟨highByte, highValue⟩ := digit_byte _ high
  obtain ⟨lowByte, lowValue⟩ := digit_byte _ low
  have percent : Utf8.encodePoint '%' = [0x25] := by decide
  have bytes : Utf8.encode (encodeByte b) =
      [0x25, UInt8.ofNat (digit (b.toNat / 16)).val, UInt8.ofNat (digit (b.toNat % 16)).val] := by
    simp only [Utf8.encode, encodeByte, List.flatMap_cons, List.flatMap_nil, percent, highByte,
      lowByte, List.cons_append, List.nil_append]
  rw [bytes, List.cons_append, List.cons_append, List.singleton_append, decodeBytes, if_pos rfl,
    highValue, lowValue]
  dsimp only
  rw [whole, UInt8.ofNat_toNat]

theorem decodeBytes_encodeBytes (bs rest : List UInt8) :
    decodeBytes (Utf8.encode (bs.flatMap encodeByte) ++ rest) = bs ++ decodeBytes rest := by
  induction bs with
  | nil => rfl
  | cons b bs ih =>
    rw [List.flatMap_cons, Utf8.encode_append, List.append_assoc, decodeBytes_encodeByte, ih,
      List.cons_append]

/-- No byte of another character is that of the percent sign. -/
theorem ne_of_mem_encodePoint {b : UInt8} (ne : c ≠ '%') (h : b ∈ Utf8.encodePoint c) :
    b ≠ 0x25 := by
  have percent : ('%' : CodePoint).val = 0x25 := by decide
  have different : c.val ≠ 0x25 := fun same => ne (Fin.ext (same.trans percent.symm))
  rintro rfl
  by_cases ascii : c.val < 0x80
  · rw [Utf8.encodePoint_of_lt ascii, List.mem_singleton] at h
    have same := congrArg UInt8.toNat h
    rw [Utf8.toNat_ofNat (by omega)] at same
    exact different same.symm
  · have outside := Utf8.le_toNat_of_mem_encodePoint (Nat.not_lt.mp ascii) h
    exact absurd outside (by decide)

theorem encode_append (keeps : CodePoint → Bool) (t u : Text) :
    encode keeps (t ++ u) = encode keeps t ++ encode keeps u :=
  List.flatMap_append

theorem encode_cons (keeps : CodePoint → Bool) (c : CodePoint) (t : Text) :
    encode keeps (c :: t) = (if keeps c then [c] else encodePoint c) ++ encode keeps t := rfl

theorem encode_eq_self (kept : ∀ c ∈ t, keeps c = true) : encode keeps t = t := by
  induction t with
  | nil => rfl
  | cons c rest ih =>
    rw [encode_cons, if_pos (kept c (List.mem_cons_self ..)),
      ih fun d hd => kept d (List.mem_cons_of_mem _ hd), List.singleton_append]

/-- A character of an encoded text was kept, or it is one of an escape. -/
theorem cases_of_mem_encode (h : c ∈ encode keeps t) :
    (c ∈ t ∧ keeps c = true) ∨ c = '%' ∨ isUnreserved c = true := by
  obtain ⟨d, hd, h⟩ := List.mem_flatMap.mp h
  by_cases kept : keeps d = true
  · rw [if_pos kept, List.mem_singleton] at h
    exact .inl (h ▸ ⟨hd, kept⟩)
  · rw [if_neg kept] at h
    obtain ⟨b, -, h⟩ := List.mem_flatMap.mp h
    obtain ⟨high, low, -⟩ := digits_toNat b
    simp only [encodeByte, List.mem_cons, List.not_mem_nil, or_false] at h
    rcases h with rfl | rfl | rfl
    · exact .inr (.inl rfl)
    · exact .inr (.inr (isUnreserved_digit _ high))
    · exact .inr (.inr (isUnreserved_digit _ low))

theorem decodeBytes_encode (plain : ('%' : CodePoint) ∉ t) :
    decodeBytes (Utf8.encode (encode keeps t)) = Utf8.encode t := by
  induction t with
  | nil => rfl
  | cons c rest ih =>
    rw [List.mem_cons, not_or] at plain
    have here : Utf8.encode (c :: rest) = Utf8.encodePoint c ++ Utf8.encode rest := rfl
    rw [encode_cons, Utf8.encode_append, here, ← ih plain.2]
    by_cases kept : keeps c = true
    · rw [if_pos kept, Utf8.encode, List.flatMap_cons, List.flatMap_nil, List.append_nil]
      exact decodeBytes_append_of_ne (fun b => ne_of_mem_encodePoint (Ne.symm plain.1)) _
    · rw [if_neg kept]
      exact decodeBytes_encodeBytes _ _

/-- **What was encoded is decoded**, whatever characters stood for themselves, if the percent
sign was not among them. -/
theorem decode_encode (scalar : ∀ c ∈ t, c.isScalar = true) (plain : ('%' : CodePoint) ∉ t) :
    decode (encode keeps t) = t := by
  rw [decode, decodeBytes_encode plain, Utf8.decodeLossy, Utf8.pieces_encode scalar, List.map_map]
  exact List.map_id _

/-! ## Escaped texts -/

/-- **Escaped**: every percent sign of a text begins the escape of a character that is not
unreserved, written in capital letters.  What is no part of an escape is of a class. -/
inductive Escaped (allowed : CodePoint → Prop) : Text → Prop
  | nil : Escaped allowed []
  | char {c : CodePoint} {t : Text} (fits : allowed c) (ne : c ≠ '%') (rest : Escaped allowed t) :
    Escaped allowed (c :: t)
  | escape {m n : Nat} {t : Text} (first : m < 16) (second : n < 16)
    (reserved : isUnreserved (CodePoint.ofNat (16 * m + n)) = false) (rest : Escaped allowed t) :
    Escaped allowed ('%' :: digit m :: digit n :: t)

namespace Escaped

variable {allowed more : CodePoint → Prop}

theorem of_forall (h : ∀ c ∈ t, allowed c ∧ c ≠ '%') : Escaped allowed t := by
  induction t with
  | nil => exact nil
  | cons c rest ih =>
    have here := h c (List.mem_cons_self ..)
    exact char here.1 here.2 (ih fun d hd => h d (List.mem_cons_of_mem _ hd))

theorem mono (wider : ∀ c, allowed c → more c) (h : Escaped allowed t) : Escaped more t := by
  induction h with
  | nil => exact nil
  | char fits ne _ ih => exact char (wider _ fits) ne ih
  | escape first second reserved _ ih => exact escape first second reserved ih

theorem append (h : Escaped allowed t) (h' : Escaped allowed u) : Escaped allowed (t ++ u) := by
  induction h with
  | nil => exact h'
  | char fits ne _ ih => exact char fits ne ih
  | escape first second reserved _ ih => exact escape first second reserved ih

/-- A character of an escaped text is of the class, a percent sign, or a digit of an escape. -/
theorem cases_of_mem (h : Escaped allowed t) (hc : c ∈ t) :
    allowed c ∨ c = '%' ∨ ∃ n < 16, c = digit n := by
  induction h with
  | nil => cases hc
  | char fits _ _ ih =>
    rcases List.mem_cons.mp hc with rfl | hc
    · exact .inl fits
    · exact ih hc
  | escape first second _ _ ih =>
    rcases List.mem_cons.mp hc with rfl | hc
    · exact .inr (.inl rfl)
    rcases List.mem_cons.mp hc with rfl | hc
    · exact .inr (.inr ⟨_, first, rfl⟩)
    rcases List.mem_cons.mp hc with rfl | hc
    · exact .inr (.inr ⟨_, second, rfl⟩)
    · exact ih hc

/-- The characters of a class are all that an escaped text has, if the class has the percent
sign and what is unreserved. -/
theorem forall_mem {p : CodePoint → Prop} (h : Escaped allowed t) (wider : ∀ c, allowed c → p c)
    (percent : p '%') (unreserved : ∀ c, isUnreserved c = true → p c) : ∀ c ∈ t, p c := by
  intro c hc
  rcases h.cases_of_mem hc with fits | rfl | ⟨n, hn, rfl⟩
  · exact wider c fits
  · exact percent
  · exact unreserved _ (isUnreserved_digit n hn)

theorem of_encodeByte {b : UInt8} (reserved : isUnreserved (CodePoint.ofNat b.toNat) = false) :
    Escaped allowed (encodeByte b) := by
  obtain ⟨high, low, whole⟩ := digits_toNat b
  exact escape high low (by rw [whole]; exact reserved) nil

theorem of_encodeBytes {bs : List UInt8}
    (reserved : ∀ b ∈ bs, isUnreserved (CodePoint.ofNat b.toNat) = false) :
    Escaped allowed (bs.flatMap encodeByte) := by
  induction bs with
  | nil => exact nil
  | cons b bs ih =>
    rw [List.flatMap_cons]
    have here : Escaped allowed (encodeByte b) := of_encodeByte (reserved b (List.mem_cons_self ..))
    exact here.append (ih fun d hd => reserved d (List.mem_cons_of_mem _ hd))

end Escaped

/-- What is unreserved is in ASCII. -/
theorem lt_of_isUnreserved (h : isUnreserved c = true) : c.val < 0x80 := by
  have marks : ('-' : CodePoint).val < 0x80 ∧ ('.' : CodePoint).val < 0x80 ∧
    ('_' : CodePoint).val < 0x80 ∧ ('~' : CodePoint).val < 0x80 := by decide
  simp only [isUnreserved, CodePoint.isAsciiLetter, CodePoint.isAsciiDigit, Bool.or_eq_true,
    Bool.and_eq_true, decide_eq_true_eq, beq_iff_eq] at h
  rcases h with ((((((h | h) | h) | rfl) | rfl) | rfl) | rfl)
  · omega
  · omega
  · omega
  · exact marks.1
  · exact marks.2.1
  · exact marks.2.2.1
  · exact marks.2.2.2

/-- No byte of a character that is not unreserved is an unreserved character by itself. -/
theorem isUnreserved_of_mem_encodePoint {b : UInt8} (reserved : isUnreserved c = false)
    (h : b ∈ Utf8.encodePoint c) : isUnreserved (CodePoint.ofNat b.toNat) = false := by
  by_cases ascii : c.val < 0x80
  · rw [Utf8.encodePoint_of_lt ascii, List.mem_singleton] at h
    rw [h, Utf8.toNat_ofNat (by omega), CodePoint.ofNat_val]
    exact reserved
  · have outside := Utf8.le_toNat_of_mem_encodePoint (Nat.not_lt.mp ascii) h
    have small := b.toNat_lt
    apply Bool.eq_false_iff.mpr
    intro unreserved
    have := lt_of_isUnreserved unreserved
    rw [CodePoint.val_ofNat (by omega)] at this
    omega

theorem escaped_encodePoint {allowed : CodePoint → Prop} (reserved : isUnreserved c = false) :
    Escaped allowed (encodePoint c) :=
  .of_encodeBytes fun _ => isUnreserved_of_mem_encodePoint reserved

/-- **An escaped text stays escaped** when what is not of a class is encoded, and it has no other
characters then. -/
theorem Escaped.encode {allowed : CodePoint → Prop} (h : Escaped allowed t)
    (unreserved : ∀ c, isUnreserved c = true → keeps c = true) :
    Escaped (fun c => keeps c = true ∧ allowed c)
      (Percent.encode (fun c => keeps c || c == '%') t) := by
  have percent : ∀ c, keeps c = true → (keeps c || c == '%') = true := by
    intro c kept
    rw [kept, Bool.true_or]
  induction h with
  | nil => exact nil
  | @char c rest fits ne _ ih =>
    rw [encode_cons]
    by_cases kept : keeps c = true
    · rw [if_pos (percent c kept)]
      exact char ⟨kept, fits⟩ ne ih
    · have reserved : isUnreserved c = false :=
        Bool.eq_false_iff.mpr fun unres => kept (unreserved c unres)
      rw [if_neg (by simpa [ne] using kept)]
      exact (escaped_encodePoint reserved).append ih
  | @escape m n rest first second reserved _ ih =>
    have high := percent _ (unreserved _ (isUnreserved_digit m first))
    have low := percent _ (unreserved _ (isUnreserved_digit n second))
    rw [encode_cons, encode_cons, encode_cons, if_pos (by simp), if_pos high, if_pos low]
    exact escape first second reserved ih

end Percent

namespace Client
namespace Url

open Percent

variable {t : Text} {allowed : CodePoint → Prop}

theorem decodeUnreserved?_cons {c : CodePoint} (ne : c ≠ '%') (t : Text) :
    decodeUnreserved? (c :: t) = (decodeUnreserved? t).map (c :: ·) := by
  match t with
  | [] => rfl
  | [_] => rfl
  | a :: b :: rest =>
    rw [decodeUnreserved?, if_neg]
    simp [ne]

/-- An escape that is needed is left as it is. -/
theorem decodeUnreserved?_escape {m n : Nat} (first : m < 16) (second : n < 16)
    (reserved : isUnreserved (CodePoint.ofNat (16 * m + n)) = false) (t : Text) :
    decodeUnreserved? ('%' :: digit m :: digit n :: t) =
      (decodeUnreserved? t).map (CodePoint.ofChar '%' :: digit m :: digit n :: ·) := by
  have value : digitValue? (digit m) = some m := by
    rw [digitValue?, hexValue?_digit m first, Option.some_or]
  have value' : digitValue? (digit n) = some n := by
    rw [digitValue?, hexValue?_digit n second, Option.some_or]
  rw [decodeUnreserved?, value, value']
  dsimp only
  rw [reserved]
  split
  · rfl
  · rw [decodeUnreserved?_cons (digit_ne_percent m first),
      decodeUnreserved?_cons (digit_ne_percent n second), Option.map_map, Option.map_map]
    rfl

/-- **An escaped text** has no escape to decode. -/
theorem decodeUnreserved?_of_escaped (h : Escaped allowed t) : decodeUnreserved? t = some t := by
  induction h with
  | nil => rfl
  | char _ ne _ ih => rw [decodeUnreserved?_cons ne, ih, Option.map_some]
  | escape first second reserved _ ih =>
    rw [decodeUnreserved?_escape first second reserved, ih, Option.map_some]

/-- What stands in front of a text and has no percent signs is left as it is. -/
theorem decodeUnreserved?_append {front : Text} (plain : ('%' : CodePoint) ∉ front) (t : Text) :
    decodeUnreserved? (front ++ t) = (decodeUnreserved? t).map (front ++ ·) := by
  induction front with
  | nil => exact (Option.map_id' ..).symm
  | cons c front ih =>
    rw [List.mem_cons, not_or] at plain
    rw [List.cons_append, decodeUnreserved?_cons (Ne.symm plain.1), ih plain.2, Option.map_map]
    rfl

/-- What is decoded has the characters that were there, and unreserved ones. -/
theorem cases_of_mem_decodeUnreserved? {c : CodePoint} {u : Text}
    (decoded : decodeUnreserved? t = some u) (h : c ∈ u) : c ∈ t ∨ isUnreserved c = true := by
  fun_induction decodeUnreserved? t generalizing u
  case case1 mark a b rest escape m n second first character unreserved ih =>
    obtain ⟨behind, deeper, rfl⟩ := Option.map_eq_some_iff.mp decoded
    rcases List.mem_cons.mp h with rfl | h
    · exact .inr unreserved
    · exact (ih deeper h).imp_left (List.mem_append_right [mark, a, b])
  case case2 mark a b rest escape m n second first character reserved ih =>
    obtain ⟨behind, deeper, rfl⟩ := Option.map_eq_some_iff.mp decoded
    rcases List.mem_append.mp (show c ∈ [mark, a, b] ++ behind from h) with front | h
    · exact .inl (List.mem_append_left rest front)
    · exact (ih deeper h).imp_left (List.mem_append_right [mark, a, b])
  case case3 => cases decoded
  case case4 mark a b rest noEscape ih =>
    obtain ⟨behind, deeper, rfl⟩ := Option.map_eq_some_iff.mp decoded
    rcases List.mem_cons.mp h with rfl | h
    · exact .inl (List.mem_cons_self ..)
    · exact (ih deeper h).imp_left (List.mem_cons_of_mem _)
  case case5 => exact .inl (Option.some.inj decoded ▸ h)

theorem upperEscapes_of_notMem (plain : ('%' : CodePoint) ∉ t) : upperEscapes t = t := by
  induction t with
  | nil => rfl
  | cons c rest ih =>
    rw [List.mem_cons, not_or] at plain
    match rest, plain, ih with
    | [], _, _ => rfl
    | [_], _, _ => rfl
    | a :: b :: rest, plain, ih =>
      rw [upperEscapes, if_neg (by simp [Ne.symm plain.1]), ih plain.2]

theorem escapesWhole_cons_of_ne {c : CodePoint} (ne : c ≠ '%') (t : Text) :
    escapesWhole (c :: t) = escapesWhole t := by
  rw [escapesWhole.eq_def]
  exact if_neg ne

theorem escapesWhole_of_notMem (plain : ('%' : CodePoint) ∉ t) : escapesWhole t = true := by
  induction t with
  | nil => rfl
  | cons c rest ih =>
    rw [List.mem_cons, not_or] at plain
    rw [escapesWhole_cons_of_ne (Ne.symm plain.1), ih plain.2]

/-- A component without percent signs is encoded with the percent sign left out of account. -/
theorem encodeComponent_of_notMem {keeps : CodePoint → Bool} (plain : ('%' : CodePoint) ∉ t) :
    encodeComponent keeps t = Percent.encode (fun c => keeps c || c == '%') t := by
  simp only [encodeComponent, upperEscapes_of_notMem plain, escapesWhole_of_notMem plain,
    Bool.true_and]

end Url
end Client
end OpenBroker
