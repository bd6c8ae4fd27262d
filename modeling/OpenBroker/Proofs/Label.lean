import OpenBroker.Domain.Name
import OpenBroker.Proofs.Text

/-! # What the ASCII form of a label consists of

The ASCII form of a label has letters, digits and hyphens only (`isPlain_of_asciiForm?`), whatever
the label is.  Where the form is an encoding, this is so because the characters of a valid label
that are kept are of this kind and the numbers are written with letters and digits.  Where the
label is in ASCII already, it may itself be an encoding, and then the argument is the converse:
each character is one of the decoded label, a hyphen, or a digit of a number that was read.
-/
namespace OpenBroker

/-! ## Encodings -/

namespace Punycode

/-- A letter or digit of ASCII, or a hyphen. -/
def isPlain (c : CodePoint) : Bool := c.isAsciiLetter || c.isAsciiDigit || c == '-'

variable {c : CodePoint} {t rest : Text}

theorem isPlain_digit : ∀ n < 36, isPlain (digit n) = true := by decide

theorem isPlain_of_value? (h : (value? c).isSome = true) : isPlain c = true := by
  rw [value?] at h
  split at h
  · next isDigit => simp [isPlain, isDigit]
  · split at h
    · next isLetter => simp [isPlain, isLetter]
    · cases h

/-- The digits of a number are plain. -/
theorem isPlain_of_mem_digits (bias place n : Nat) :
    ∀ c ∈ digits bias place n, isPlain c = true := by
  induction place, n using digits.induct bias with
  | case1 place n t single =>
    intro c hc
    have least := threshold_le bias place
    rw [digits, if_pos single, List.mem_singleton] at hc
    rw [hc]
    exact isPlain_digit n (by omega)
  | case2 place n t more ih =>
    intro c hc
    have least := threshold_le bias place
    rw [digits, if_neg more] at hc
    rcases List.mem_cons.mp hc with rfl | hc
    · have small : (n - threshold bias place) % (36 - threshold bias place) <
          36 - threshold bias place := Nat.mod_lt _ (by omega)
      exact isPlain_digit _ (by omega)
    · exact ih c hc

/-- What is written so far is plain. -/
def Encoding.Plain (e : Encoding) : Prop := ∀ c ∈ e.written, isPlain c = true

theorem Encoding.Plain.meet {e : Encoding} (h : e.Plain) (base n : Nat) (c : CodePoint) :
    (Encoding.meet base n e c).Plain := by
  rw [Encoding.meet]
  split
  · exact h
  · split
    · intro d hd
      rcases List.mem_append.mp hd with hd | hd
      · exact h d hd
      · exact isPlain_of_mem_digits _ _ _ d hd
    · exact h

theorem Encoding.Plain.foldl {e : Encoding} (h : e.Plain) (base n : Nat) (t : Text) :
    (t.foldl (Encoding.meet base n) e).Plain := by
  induction t generalizing e with
  | nil => exact h
  | cons c rest ih => exact ih (h.meet base n c)

theorem Encoding.Plain.encodeFrom {e : Encoding} (h : e.Plain) (t : Text) (base : Nat)
    (ns : List Nat) (start : Nat) : (encodeFrom t base start ns e).Plain := by
  induction ns generalizing e start with
  | nil => exact h
  | cons n rest ih =>
    have passed : Plain { e with passed := e.passed + (n - start) * (e.characters + 1) } := h
    rw [Punycode.encodeFrom]
    refine ih ?_ _
    exact passed.foldl base n t

/-- **An encoding** has the characters of the text that are in ASCII, and plain ones. -/
theorem mem_or_isPlain_of_mem_encode (h : c ∈ encode t) :
    c ∈ t ∧ c.val < 0x80 ∨ isPlain c = true := by
  have start : (⟨[], 0, 72, (t.filter (·.val < 0x80)).length⟩ : Encoding).Plain := by
    intro d hd
    cases hd
  rcases List.mem_append.mp h with h | h
  · rcases List.mem_append.mp h with h | h
    · have kept := List.mem_filter.mp h
      exact .inl ⟨kept.1, of_decide_eq_true kept.2⟩
    · split at h
      · cases h
      · rw [List.mem_singleton.mp h]
        exact .inr (by decide)
  · exact .inr (start.encodeFrom t _ _ _ c h)

/-! ## Decodings -/

/-- A number that was read has digits only, and at least one. -/
theorem exists_of_number? {bias place worth n passed : Nat}
    (read : number? bias place worth n t = some (passed, rest)) :
    ∃ ds, t = ds ++ rest ∧ ds ≠ [] ∧ ∀ c ∈ ds, isPlain c = true := by
  induction t generalizing place worth n with
  | nil => cases read
  | cons c t ih =>
    rw [number?] at read
    cases value : value? c with
    | none =>
      rw [value] at read
      cases read
    | some v =>
      have plain : isPlain c = true := isPlain_of_value? (by rw [value]; rfl)
      rw [value] at read
      dsimp only at read
      split at read
      · cases read
        refine ⟨[c], rfl, List.cons_ne_nil _ _, ?_⟩
        intro d hd
        rw [List.mem_singleton.mp hd]
        exact plain
      · obtain ⟨ds, rfl, -, digits⟩ := ih read
        refine ⟨c :: ds, rfl, List.cons_ne_nil _ _, ?_⟩
        intro d hd
        rcases List.mem_cons.mp hd with rfl | hd
        · exact plain
        · exact digits d hd

/-- Nothing that is there is lost by an insertion. -/
theorem Decoding.mem_of_insert? {substitute? : Option Nat} {d d' : Decoding} {passed : Nat}
    (inserted : d.insert? substitute? passed = some d') (h : c ∈ d.text) : c ∈ d'.text := by
  obtain ⟨n, -, rfl⟩ := Option.map_eq_some_iff.mp inserted
  rw [← List.take_append_drop ((d.place + passed) % (d.text.length + 1)) d.text] at h
  rcases List.mem_append.mp h with h | h
  · exact List.mem_append_left _ h
  · exact List.mem_append_right _ (List.mem_cons_of_mem _ h)

/-- **What was decoded** strictly has all characters that were there, and was read from plain
ones. -/
theorem mem_and_isPlain_of_decodeFrom {bound : Nat} {d : Decoding} {u : Text}
    (decoded : decodeFrom none bound d t = some u) (enough : t.length ≤ bound) :
    (∀ c ∈ d.text, c ∈ u) ∧ ∀ c ∈ t, isPlain c = true := by
  induction bound generalizing d t with
  | zero =>
    cases decoded
    rw [List.length_eq_zero_iff.mp (Nat.le_zero.mp enough)]
    exact ⟨fun c hc => hc, nofun⟩
  | succ bound ih =>
    rw [decodeFrom] at decoded
    split at decoded
    · next empty =>
      cases decoded
      rw [List.isEmpty_iff.mp empty]
      exact ⟨fun c hc => hc, nofun⟩
    · split at decoded
      · cases decoded
      · next passed rest read =>
        obtain ⟨d', inserted, decoded⟩ := Option.bind_eq_some_iff.mp decoded
        obtain ⟨ds, rfl, ne, digits⟩ := exists_of_number? read
        have shorter : rest.length ≤ bound := by
          have := List.length_pos_iff.mpr ne
          rw [List.length_append] at enough
          omega
        obtain ⟨kept, plain⟩ := ih decoded shorter
        refine ⟨fun c hc => kept c (Decoding.mem_of_insert? inserted hc), ?_⟩
        intro c hc
        rcases List.mem_append.mp hc with hc | hc
        · exact digits c hc
        · exact plain c hc

theorem mem_cutBase (h : c ∈ t) : c ∈ (cutBase t).1 ∨ c ∈ (cutBase t).2 ∨ c = '-' := by
  have back := List.mem_reverse.mpr h
  rw [cutBase]
  split
  · next after before cut =>
    rw [(Text.cut_eq_some_iff.mp cut).1] at back
    rcases List.mem_append.mp back with back | back
    · exact .inr (.inl (List.mem_reverse.mpr back))
    rcases List.mem_cons.mp back with rfl | back
    · exact .inr (.inr rfl)
    · exact .inl (List.mem_reverse.mpr back)
  · exact .inr (.inl h)

/-- **What can be decoded** has characters of the decoded text, and plain ones. -/
theorem mem_or_isPlain_of_decode? {u : Text} (decoded : decode? none t = some u) (h : c ∈ t) :
    c ∈ u ∨ isPlain c = true := by
  obtain ⟨kept, plain⟩ := mem_and_isPlain_of_decodeFrom decoded (Nat.le_refl _)
  rcases mem_cutBase h with base | numbers | rfl
  · exact .inl (kept c base)
  · exact .inr (plain c numbers)
  · exact .inr (by decide)

end Punycode

/-! ## Labels -/

namespace CodeSet

/-- What comes behind a change does not count below it. -/
theorem oddChanges_append_of_lt {n last : Nat} (below : n < last) (changes rest : List Nat) :
    oddChanges n (changes ++ last :: rest) = oddChanges n changes := by
  induction changes with
  | nil => exact if_pos below
  | cons change changes ih => rw [List.cons_append, oddChanges, oddChanges, ih]

/-- Below its last change the table of a set does not count. -/
theorem hasNat_extended_of_lt {n last : Nat} (below : n < last) (changes : List Nat)
    (table : String) : (extended (changes ++ [last]) table).hasNat n = oddChanges n changes := by
  rw [hasNat, extended, List.append_assoc, List.singleton_append, oddChanges_append_of_lt below]

end CodeSet

namespace Domain

open Punycode

variable {c : CodePoint} {t form : Text}

/-- A permitted character of ASCII is plain. -/
theorem isPlain_of_permitted (h : permitted.has c = true) (ascii : c.val < 0x80) :
    isPlain c = true := by
  have hyphen : ('-' : CodePoint).val = 0x2D := by decide
  have changes : permitted.hasNat c.val =
      CodeSet.oddChanges c.val [0x2D, 0x2E, 0x30, 0x3A, 0x61, 0x7B] :=
    CodeSet.hasNat_extended_of_lt (show c.val < 0xB7 by omega)
      [0x2D, 0x2E, 0x30, 0x3A, 0x61, 0x7B] _
  rw [CodeSet.has, changes] at h
  simp only [CodeSet.oddChanges] at h
  simp only [isPlain, CodePoint.isAsciiLetter, CodePoint.isAsciiDigit, Bool.or_eq_true,
    Bool.and_eq_true, decide_eq_true_eq, beq_iff_eq, Fin.ext_iff, hyphen]
  repeat' split at h
  all_goals first | omega | cases h

theorem permitted_of_allFit {before : Text} (h : allFit before t = true) :
    ∀ c ∈ t, permitted.has c = true := by
  induction t generalizing before with
  | nil => nofun
  | cons c rest ih =>
    simp only [allFit, Bool.and_eq_true] at h
    intro d hd
    rcases List.mem_cons.mp hd with rfl | hd
    · exact h.1.1
    · exact ih h.2 d hd

theorem permitted_of_isValid (h : isValid t = true) : ∀ c ∈ t, permitted.has c = true := by
  simp only [isValid, Bool.and_eq_true] at h
  exact permitted_of_allFit h.1.2

theorem isPlain_of_mem_encodedMark : ∀ c ∈ encodedMark, isPlain c = true :=
  List.all_eq_true.mp (by decide)

theorem isPlain_of_asciiLower (h : isPlain c.asciiLower = true) : isPlain c = true := by
  by_cases capital : 0x41 ≤ c.val ∧ c.val ≤ 0x5A
  · simp [isPlain, CodePoint.isAsciiLetter, capital]
  · rw [CodePoint.asciiLower, if_neg (by simpa using capital)] at h
    exact h

theorem asciiLower_lt (ascii : c.val < 0x80) : c.asciiLower.val < 0x80 := by
  rw [CodePoint.asciiLower]
  split
  · next capital =>
    simp only [Bool.and_eq_true, decide_eq_true_eq] at capital
    rw [CodePoint.val_ofNat (by omega)]
    omega
  · exact ascii

/-- A valid label in ASCII is plain, and so is one that is the form of a valid label. -/
theorem isPlain_of_isValidAscii (valid : isValidAscii t = true) (ascii : ∀ c ∈ t, c.val < 0x80) :
    ∀ c ∈ t, isPlain c = true := by
  have lowered : ∀ c ∈ Text.asciiLower t, c.val < 0x80 := by
    intro c hc
    obtain ⟨d, hd, rfl⟩ := List.mem_map.mp hc
    exact asciiLower_lt (ascii d hd)
  have plain : ∀ c ∈ Text.asciiLower t, isPlain c = true := by
    intro c hc
    rw [isValidAscii] at valid
    dsimp only at valid
    split at valid
    · next encoded =>
      obtain ⟨code, same⟩ := List.isPrefixOf_iff_prefix.mp encoded
      have rest : (Text.asciiLower t).drop 4 = code := by rw [← same]; rfl
      rw [rest, Bool.and_eq_true] at valid
      rw [← same] at hc lowered
      rcases List.mem_append.mp hc with hc | hc
      · exact isPlain_of_mem_encodedMark c hc
      · obtain ⟨u, decoded, label⟩ : ∃ u, decode? none code = some u ∧ isValid u = true := by
          cases decoded : decode? none code with
          | none =>
            rw [decoded] at valid
            cases valid.2
          | some u =>
            rw [decoded] at valid
            exact ⟨u, rfl, valid.2⟩
        rcases mem_or_isPlain_of_decode? decoded hc with hu | plain
        · exact isPlain_of_permitted (permitted_of_isValid label c hu)
            (lowered c (List.mem_append_right _ hc))
        · exact plain
    · exact isPlain_of_permitted (permitted_of_isValid valid c hc) (lowered c hc)
  intro c hc
  exact isPlain_of_asciiLower (plain _ (List.mem_map_of_mem hc))

/-- **The ASCII form of a label is plain.** -/
theorem isPlain_of_asciiForm? (h : asciiForm? t = some form) : ∀ c ∈ form, isPlain c = true := by
  rw [asciiForm?] at h
  have h := (Option.filter_eq_some_iff.mp h).1
  split at h
  · next ascii =>
    split at h
    · next valid =>
      cases h
      exact isPlain_of_isValidAscii valid fun c hc =>
        of_decide_eq_true (List.all_eq_true.mp ascii c hc)
    · cases h
  · split at h
    · next valid =>
      cases h
      intro c hc
      rcases List.mem_append.mp hc with hc | hc
      · exact isPlain_of_mem_encodedMark c hc
      · rcases mem_or_isPlain_of_mem_encode hc with ⟨hc, ascii⟩ | plain
        · exact isPlain_of_permitted (permitted_of_isValid valid c hc) ascii
        · exact plain
    · cases h

end Domain
end OpenBroker
