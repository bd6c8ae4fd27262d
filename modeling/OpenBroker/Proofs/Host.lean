import OpenBroker.Proofs.Delivery
import OpenBroker.Proofs.Except
import OpenBroker.Proofs.Label
import OpenBroker.Proofs.Percent

/-! # Hosts in their normal form

The host of an address is brought into a normal form before the address is put together from it.
For the rest of the address two things about that form matter: no mark in it ends the authority,
and it has no escape that is decoded later on (`escaped_normal`).  Both are kept by everything that
is done to a name, from its escapes over its labels to the letters in them.

The one exception is a zone behind the number of a host.  It is written with a percent sign that
begins no escape, and then all percent signs of the address are taken for characters of their
own, those of its path among them.
-/
namespace OpenBroker

namespace Client
namespace Url

open Percent

variable {c : CodePoint} {t : Text} {allowed : CodePoint → Prop}

/-! ## Characters inside an authority -/

/-- A character that does not end an authority. -/
def IsInner (c : CodePoint) : Prop := c ≠ '/' ∧ c ≠ '?' ∧ c ≠ '#'

instance : DecidablePred IsInner := fun _ => inferInstanceAs (Decidable (_ ∧ _))

theorem isInner_of_isUnreserved (h : isUnreserved c = true) : IsInner c := by
  refine ⟨?_, ?_, ?_⟩
  all_goals
    rintro rfl
    exact absurd h (by decide)

theorem isUnreserved_of_isPlain (h : Punycode.isPlain c = true) : isUnreserved c = true := by
  rw [Punycode.isPlain] at h
  rw [isUnreserved, h]
  rfl

theorem ne_percent_of_isUnreserved (h : isUnreserved c = true) : c ≠ '%' := by
  rintro rfl
  exact absurd h (by decide)

/-- Lower case changes letters only. -/
theorem asciiLower_cases (c : CodePoint) : c.asciiLower = c ∨ isUnreserved c.asciiLower = true := by
  by_cases capital : 0x41 ≤ c.val ∧ c.val ≤ 0x5A
  · have letter : c.asciiLower.isAsciiLetter = true := by
      rw [CodePoint.asciiLower, if_pos (by simpa using capital), CodePoint.isAsciiLetter,
        CodePoint.val_ofNat (by omega)]
      simp only [Bool.or_eq_true, Bool.and_eq_true, decide_eq_true_eq]
      omega
    refine .inr ?_
    rw [isUnreserved, letter]
    rfl
  · exact .inl (if_neg (by simpa using capital))

theorem allowed_asciiLower (unreserved : ∀ c, isUnreserved c = true → allowed c)
    (h : allowed c) : allowed c.asciiLower := by
  rcases asciiLower_cases c with same | letter
  · rw [same]
    exact h
  · exact unreserved _ letter

theorem asciiLower_ne_percent (h : c ≠ '%') : c.asciiLower ≠ '%' := by
  rcases asciiLower_cases c with same | letter
  · rw [same]
    exact h
  · exact ne_percent_of_isUnreserved letter

/-! ## Escapes of a name -/

/-- A hexadecimal digit in upper case is the digit of its value. -/
theorem digit_of_hexValue? {m : Nat} (h : c.hexValue? = some m) :
    m < 16 ∧ c.asciiUpper = digit m ∧ c ≠ '%' := by
  have all : ∀ n < 0x80, ∀ m < 16, (CodePoint.ofNat n).hexValue? = some m →
      (CodePoint.ofNat n).asciiUpper = digit m := by decide +kernel
  have small : c.val < 0x80 ∧ m < 16 := by
    rw [CodePoint.hexValue?] at h
    simp only [Bool.and_eq_true, decide_eq_true_eq] at h
    repeat' split at h
    all_goals cases h
    all_goals omega
  have value := all c.val small.1 m small.2
  rw [CodePoint.ofNat_val] at value
  refine ⟨small.2, value h, ?_⟩
  rintro rfl
  exact absurd h (by decide +revert)

/-- A percent sign of a text without half-written escapes begins an escape. -/
theorem exists_of_escapesWhole (whole : escapesWhole ('%' :: t) = true) :
    ∃ a b rest m n, t = a :: b :: rest ∧ a.hexValue? = some m ∧ b.hexValue? = some n ∧
      escapesWhole rest = true := by
  match t, whole with
  | a :: b :: rest, whole =>
    rw [escapesWhole, if_pos rfl, Bool.and_eq_true, areHex, Bool.and_eq_true] at whole
    obtain ⟨⟨first, second⟩, more⟩ := whole
    obtain ⟨m, first⟩ := Option.isSome_iff_exists.mp first
    obtain ⟨n, second⟩ := Option.isSome_iff_exists.mp second
    rw [escapesWhole_cons_of_ne (digit_of_hexValue? first).2.2,
      escapesWhole_cons_of_ne (digit_of_hexValue? second).2.2] at more
    exact ⟨a, b, rest, m, n, rfl, first, second, more⟩

theorem plainEscapes_cons_of_ne (host : Text) (ne : c ≠ '%') (t : Text) :
    plainEscapes host (c :: t) = (plainEscapes host t).map (c :: ·) := by
  match t with
  | [] => rfl
  | [_] => rfl
  | a :: b :: rest => rw [plainEscapes, if_neg ne]

theorem plainEscapes_escape {a b : CodePoint} {m n : Nat} (host : Text)
    (first : a.hexValue? = some m) (second : b.hexValue? = some n) (t : Text) :
    plainEscapes host ('%' :: a :: b :: t) =
      if isControl (CodePoint.ofNat (16 * m + n)).val then .error (.badEscape host ['%', a, b])
      else (plainEscapes host t).map fun rest =>
        if isUnreserved (CodePoint.ofNat (16 * m + n)) then CodePoint.ofNat (16 * m + n) :: rest
        else '%' :: digit m :: digit n :: rest := by
  rw [plainEscapes, if_pos rfl, first, second, (digit_of_hexValue? first).2.1,
    (digit_of_hexValue? second).2.1]
  dsimp only
  split
  · rfl
  · cases plainEscapes host t <;> rfl

/-- **The escapes that are left in a name** are those of characters that have to be escaped. -/
theorem escaped_plainEscapes {host plain : Text} (whole : escapesWhole t = true)
    (fits : ∀ c ∈ t, allowed c) (unreserved : ∀ c, isUnreserved c = true → allowed c)
    (done : plainEscapes host t = .ok plain) : Escaped allowed plain := by
  -- on the length, since an escape is read as a whole
  induction size : t.length using Nat.strongRecOn generalizing t plain with
  | ind _ ih =>
    cases t with
    | nil =>
      cases done
      exact .nil
    | cons c t =>
      by_cases percent : c = '%'
      · rw [percent] at whole done
        obtain ⟨a, b, rest, m, n, rfl, first, second, more⟩ := exists_of_escapesWhole whole
        rw [plainEscapes_escape host first second] at done
        split at done
        · cases done
        cases deeper : plainEscapes host rest with
        | error r =>
          rw [deeper] at done
          cases done
        | ok behind =>
          rw [deeper] at done
          cases done
          have shorter : rest.length < (c :: a :: b :: rest).length := by
            simp only [List.length_cons]
            omega
          have inside : ∀ d ∈ rest, allowed d := fun d hd =>
            fits d (List.mem_cons_of_mem _ (List.mem_cons_of_mem _ (List.mem_cons_of_mem _ hd)))
          have escaped := ih _ (size ▸ shorter) more inside deeper rfl
          split
          · next decoded =>
            exact .char (unreserved _ decoded) (ne_percent_of_isUnreserved decoded) escaped
          · next kept =>
            exact .escape (digit_of_hexValue? first).1 (digit_of_hexValue? second).1
              (Bool.eq_false_iff.mpr kept) escaped
      · rw [escapesWhole_cons_of_ne percent] at whole
        rw [plainEscapes_cons_of_ne host percent] at done
        cases deeper : plainEscapes host t with
        | error r =>
          rw [deeper] at done
          cases done
        | ok behind =>
          rw [deeper] at done
          cases done
          have shorter : t.length < (c :: t).length := Nat.lt_succ_self _
          have inside : ∀ d ∈ t, allowed d := fun d hd => fits d (List.mem_cons_of_mem _ hd)
          exact .char (fits c (List.mem_cons_self ..)) percent
            (ih _ (size ▸ shorter) whole inside deeper rfl)

/-! ## Labels of a name -/

theorem lowerOutsideEscapes_cons_of_ne (ne : c ≠ '%') (t : Text) :
    lowerOutsideEscapes (c :: t) = c.asciiLower :: lowerOutsideEscapes t := by
  match t with
  | [] => rfl
  | [_] => rfl
  | a :: b :: rest => rw [lowerOutsideEscapes, if_neg ne]

theorem escaped_lowerOutsideEscapes (unreserved : ∀ c, isUnreserved c = true → allowed c)
    (h : Escaped allowed t) : Escaped allowed (lowerOutsideEscapes t) := by
  induction h with
  | nil => exact .nil
  | char fits ne _ ih =>
    rw [lowerOutsideEscapes_cons_of_ne ne]
    exact .char (allowed_asciiLower unreserved fits) (asciiLower_ne_percent ne) ih
  | escape first second reserved _ ih =>
    rw [lowerOutsideEscapes, if_pos rfl]
    exact .escape first second reserved ih

/-- A text is split in no escape. -/
theorem escaped_of_mem_split (separator : CodePoint) (other : ∀ n < 16, digit n ≠ separator)
    (percent : separator ≠ '%') (h : Escaped allowed t) :
    ∀ part ∈ Text.split separator t, Escaped allowed part := by
  -- a character that is no separator goes to the front of the first part
  have front : ∀ {c : CodePoint} {t : Text}, c ≠ separator →
      ∃ first rest, Text.split separator t = first :: rest ∧
        Text.split separator (c :: t) = (c :: first) :: rest := by
    intro c t ne
    obtain ⟨first, rest, same⟩ := List.exists_cons_of_ne_nil (Text.split_ne_nil separator t)
    exact ⟨first, rest, same, by rw [Text.split, if_neg ne, same]; rfl⟩
  induction h with
  | nil =>
    intro part hp
    rw [List.mem_singleton.mp hp]
    exact .nil
  | @char c t fits ne _ ih =>
    intro part hp
    by_cases here : c = separator
    · rw [here, Text.split_cons_self] at hp
      rcases List.mem_cons.mp hp with rfl | hp
      · exact .nil
      · exact ih part hp
    · obtain ⟨first, rest, same, split⟩ := front (t := t) here
      rw [split] at hp
      rw [same] at ih
      rcases List.mem_cons.mp hp with rfl | hp
      · exact .char fits ne (ih first (List.mem_cons_self ..))
      · exact ih part (List.mem_cons_of_mem _ hp)
  | @escape m n t hm hn reserved _ ih =>
    intro part hp
    obtain ⟨last, rest, same, split⟩ := front (t := t) (other n hn)
    obtain ⟨_, _, same', split'⟩ := front (t := digit n :: t) (other m hm)
    obtain ⟨_, _, same'', split''⟩ := front (t := digit m :: digit n :: t) (Ne.symm percent)
    rw [split] at same'
    cases same'
    rw [split'] at same''
    cases same''
    rw [split''] at hp
    rw [same] at ih
    rcases List.mem_cons.mp hp with rfl | hp
    · exact .escape hm hn reserved (ih last (List.mem_cons_self ..))
    · exact ih part (List.mem_cons_of_mem _ hp)

theorem escaped_join {separator : Text} (between : Escaped allowed separator) {parts : List Text}
    (h : ∀ part ∈ parts, Escaped allowed part) : Escaped allowed (Text.join separator parts) := by
  induction parts with
  | nil => exact .nil
  | cons part rest ih =>
    have first := h part (List.mem_cons_self ..)
    cases rest with
    | nil => exact first
    | cons next others =>
      exact (first.append between).append (ih fun p hp => h p (List.mem_cons_of_mem _ hp))

theorem escaped_normalLabel {form : Text} (unreserved : ∀ c, isUnreserved c = true → allowed c)
    (h : Escaped allowed t) (done : normalLabel t = .ok form) : Escaped allowed form := by
  rw [normalLabel] at done
  split at done
  · cases done
    exact escaped_lowerOutsideEscapes unreserved h
  · split at done
    · next encoded =>
      cases done
      refine .of_forall fun c hc => ?_
      have plain := isUnreserved_of_isPlain (Domain.isPlain_of_asciiForm? encoded c hc)
      exact ⟨unreserved c plain, ne_percent_of_isUnreserved plain⟩
    · cases done

theorem escaped_normalLabels {labels forms : List Text}
    (unreserved : ∀ c, isUnreserved c = true → allowed c) (h : ∀ l ∈ labels, Escaped allowed l)
    (done : normalLabels labels = .ok forms) : ∀ form ∈ forms, Escaped allowed form := by
  induction labels generalizing forms with
  | nil =>
    cases done
    nofun
  | cons label rest ih =>
    rw [normalLabels] at done
    obtain ⟨form, here, done⟩ := exists_of_bind_eq_ok done
    obtain ⟨more, deeper, done⟩ := exists_of_bind_eq_ok done
    cases done
    intro f hf
    rcases List.mem_cons.mp hf with rfl | hf
    · exact escaped_normalLabel unreserved (h label (List.mem_cons_self ..)) here
    · exact ih (fun l hl => h l (List.mem_cons_of_mem _ hl)) deeper f hf

/-! ## Hosts -/

theorem notMem_of_isNumeral (h : Numeric.isNumeral t = true) : ('%' : CodePoint) ∉ t := by
  have digits : t.all CodePoint.isAsciiDigit = true → ('%' : CodePoint) ∉ t := by
    intro all percent
    exact absurd (List.all_eq_true.mp all _ percent) (by decide)
  unfold Numeric.isNumeral at h
  split at h
  · next zero x ds =>
    rcases (Bool.or_eq_true _ _).mp h with hexadecimal | decimal
    · simp only [Bool.and_eq_true, beq_iff_eq] at hexadecimal
      obtain ⟨⟨rfl, mark⟩, all⟩ := hexadecimal
      intro percent
      rcases List.mem_cons.mp percent with percent | percent
      · exact absurd percent (by decide)
      rcases List.mem_cons.mp percent with rfl | percent
      · exact absurd mark (by decide)
      · exact absurd (List.all_eq_true.mp all _ percent) (by decide)
    · exact digits decimal
  · exact digits ((Bool.and_eq_true _ _).mp h).2

/-- A number of a host in any notation has no percent sign. -/
theorem notMem_of_isLoose (h : Numeric.isLoose t = true) : ('%' : CodePoint) ∉ t := by
  intro percent
  have noPoint : ('%' : CodePoint) ≠ '.' := by decide
  obtain ⟨part, hp, inPart⟩ := Text.exists_mem_split_of_mem percent noPoint
  rw [Numeric.isLoose, Bool.and_eq_true] at h
  exact notMem_of_isNumeral (List.all_eq_true.mp h.2 part hp) inPart

/-- **Where a host is found**: between brackets, or in front of the first colon. -/
theorem of_hostAndSocket? {host : Host} {number : Nat}
    (h : hostAndSocket? t = some (host, number)) :
    (∃ inner after, t = inBrackets inner ++ after ∧ bracketed? inner = some host) ∨
      ∃ name, host = .name name ∧ escapesWhole name = true ∧ ∀ c ∈ name, c ∈ t := by
  rw [hostAndSocket?] at h
  dsimp only at h
  split at h
  · next bracket =>
    obtain ⟨rest, rfl⟩ := List.isPrefixOf_iff_prefix.mp bracket
    split at h
    · next inner after cut =>
      obtain ⟨host', found, h⟩ := Option.bind_eq_some_iff.mp h
      obtain ⟨_, _, h⟩ := Option.bind_eq_some_iff.mp h
      cases h
      refine .inl ⟨inner, after, ?_, found⟩
      have same : rest = inner ++ CodePoint.ofChar ']' :: after := (Text.cut_eq_some_iff.mp cut).1
      rw [same, inBrackets, List.append_assoc, List.append_assoc]
      rfl
    · cases h
  · split at h
    · next named =>
      obtain ⟨_, _, h⟩ := Option.map_eq_some_iff.mp h
      cases h
      rw [isName, Bool.and_eq_true] at named
      exact .inr ⟨_, rfl, named.1, fun c hc => (List.takeWhile_prefix _).subset hc⟩
    · cases h

/-- **A name in its normal form** has no characters but those it had, and unreserved ones. -/
theorem escaped_normal_name {form : Text} (unreserved : ∀ c, isUnreserved c = true → allowed c)
    (fits : ∀ c ∈ t, allowed c) (whole : escapesWhole t = true)
    (done : (Host.name t).normal = .ok form) : Escaped allowed form := by
  rw [Host.normal] at done
  split at done
  · next loose =>
    cases done
    exact .of_forall fun c hc => ⟨fits c hc, fun same => notMem_of_isLoose loose (same ▸ hc)⟩
  · split at done
    · cases done
    · obtain ⟨plain, unescaped, done⟩ := exists_of_bind_eq_ok done
      obtain ⟨forms, normal, done⟩ := exists_of_bind_eq_ok done
      cases done
      have escaped : Escaped allowed plain := escaped_plainEscapes whole fits unreserved unescaped
      have labels := escaped_of_mem_split '.' (by decide) (by decide) escaped
      have point : Escaped allowed "." := .char (unreserved _ (by decide)) (by decide) .nil
      exact escaped_join point (escaped_normalLabels unreserved labels normal)

theorem forall_mem_inBrackets {p : CodePoint → Prop} (left : p '[') (right : p ']')
    (h : ∀ c ∈ t, p c) : ∀ c ∈ inBrackets t, p c := by
  intro c hc
  simp only [inBrackets, List.mem_append] at hc
  rcases hc with (hc | hc) | hc
  · exact List.mem_singleton.mp hc ▸ left
  · exact h c hc
  · exact List.mem_singleton.mp hc ▸ right

/-- A zone is encoded as far as possible. -/
theorem cases_of_mem_zone? {z : Text} (found : zone? t = some z) (h : c ∈ z) :
    c = '%' ∨ isUnreserved c = true := by
  simp only [zone?] at found
  split at found
  · cases found
    rcases cases_of_mem_encode h with ⟨-, kept⟩ | escape
    · simp only [Bool.or_eq_true, Bool.and_eq_true, beq_iff_eq] at kept
      exact kept.symm.imp_left And.right
    · exact escape
  · cases found

/-- **A number in its normal form** has no mark that ends an authority, and no percent sign unless
there was one. -/
theorem forall_mem_normal_bracketed {host : Host} {form : Text} (inner : ∀ c ∈ t, IsInner c)
    (found : bracketed? t = some host) (done : host.normal = .ok form) :
    (∀ c ∈ form, IsInner c) ∧ (('%' : CodePoint) ∉ t → ('%' : CodePoint) ∉ form) := by
  have brackets : (IsInner '[' ∧ IsInner ']') ∧ CodePoint.ofChar '[' ≠ '%' ∧
      CodePoint.ofChar ']' ≠ '%' := by decide
  have lower : ∀ {u : Text}, (∀ c ∈ u, IsInner c) → ∀ c ∈ Text.asciiLower u, IsInner c := by
    intro u inner c hc
    obtain ⟨d, hd, rfl⟩ := List.mem_map.mp hc
    exact allowed_asciiLower (fun _ => isInner_of_isUnreserved) (inner d hd)
  rw [bracketed?] at found
  rcases Text.eq_of_cut '%' t with ⟨noZone, cut⟩ | ⟨number, zone, -, rfl, cut⟩
  · rw [cut] at found
    dsimp only at found
    split at found
    · cases found
      cases done
      have plain : ∀ c ∈ Text.asciiLower t, c ≠ '%' := by
        intro c hc
        obtain ⟨d, hd, rfl⟩ := List.mem_map.mp hc
        exact asciiLower_ne_percent fun same => noZone (same ▸ hd)
      refine ⟨forall_mem_inBrackets brackets.1.1 brackets.1.2 (lower inner), fun _ percent => ?_⟩
      exact forall_mem_inBrackets brackets.2.1 brackets.2.2 plain _ percent rfl
    · cases found
  · rw [cut] at found
    dsimp only at found
    split at found
    · next z isZone =>
      cases found
      cases done
      refine ⟨forall_mem_inBrackets brackets.1.1 brackets.1.2 ?_, fun noZone => ?_⟩
      · intro c hc
        simp only [List.mem_append] at hc
        rcases hc with (hc | hc) | hc
        · exact lower (fun d hd => inner d (List.mem_append_left _ hd)) c hc
        · rw [List.mem_singleton.mp hc]
          decide
        · rcases cases_of_mem_zone? isZone hc with rfl | unreserved
          · decide
          · exact isInner_of_isUnreserved unreserved
      · exact absurd (List.mem_append_right number (List.mem_cons_self ..)) noZone
    · cases found

/-- **A host in its normal form** has no mark that ends an authority, and unless it has a zone it is
a part of an address that stays as it is. -/
theorem escaped_normal {host : Host} {number : Nat} {form : Text} (inner : ∀ c ∈ t, IsInner c)
    (found : hostAndSocket? t = some (host, number)) (done : host.normal = .ok form) :
    (∀ c ∈ form, IsInner c) ∧
      ((('[' : CodePoint) ∈ t → ('%' : CodePoint) ∉ t) → Escaped IsInner form) := by
  rcases of_hostAndSocket? found with ⟨number, after, rfl, bracketed⟩ | ⟨name, rfl, whole, part⟩
  · have mem : ∀ c ∈ number, c ∈ inBrackets number ++ after := fun c hc =>
      List.mem_append_left _ (List.mem_cons_of_mem _ (List.mem_append_left _ hc))
    obtain ⟨kept, plain⟩ :=
      forall_mem_normal_bracketed (fun c hc => inner c (mem c hc)) bracketed done
    refine ⟨kept, fun noZone => .of_forall fun c hc => ⟨kept c hc, ?_⟩⟩
    rintro rfl
    exact plain (fun percent => noZone (List.mem_cons_self ..) (mem _ percent)) hc
  · have escaped : Escaped IsInner form :=
      escaped_normal_name (fun _ => isInner_of_isUnreserved) (fun c hc => inner c (part c hc))
        whole done
    exact ⟨escaped.forall_mem (fun _ => id) (by decide) fun _ => isInner_of_isUnreserved,
      fun _ => escaped⟩

end Url
end Client
end OpenBroker
