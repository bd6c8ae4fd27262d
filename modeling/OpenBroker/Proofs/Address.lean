import OpenBroker.Proofs.Decimal
import OpenBroker.Proofs.Host

/-! # Addresses below a broker

An address of a server that can be used at all can be used with any path behind it.  What is sent
is then read by the server as that very path (`Site.exists_prepare`), if the path has no marks in
it that end a path or begin an escape, and no dot segments.

The two parts of such an address do not meet while it is prepared: the authority is the one that
is found (`components_eq`), it is written in the same way whatever the path
(`ofAddress_eq_ok_iff`), the last look at the escapes goes over each part by itself
(`canonical_eq`), and in the finished address each part still stands where it did (`ofText_eq`).

Only a zone behind the number of a host reaches further, for its percent sign may be one that
begins no escape.  Then the escapes of the path are encoded once more, so that behind a zone only
what needs no escape is sent as it is (`Site.Carries`).
-/
namespace OpenBroker
namespace Client
namespace Url

open Percent

/-- A character that an authority without a user may have. -/
def isBare (c : CodePoint) : Bool := c != '/' && c != '\\' && c != '?' && c != '#' && c != '@'

/-- **Site**: the address of a server that can be used, without a user and a path. -/
structure Site where
  scheme : Text
  authority : Text
  isScheme : scheme ∈ schemes
  bare : authority.all isBare = true
  accepted : (prepare (scheme ++ "://" ++ authority)).isOk = true

/-- The host itself, by its number. -/
def Site.loopback : Site where
  scheme := "https"
  authority := "[::1]:8080"
  isScheme := by decide
  bare := by decide
  accepted := by decide +kernel

/-- The site as it is written. -/
def Site.text (s : Site) : Text := s.scheme ++ "://" ++ s.authority

/-- **What a site carries**: every text, unless its host has a zone.  Then the text has to consist
of characters that stand for themselves in a path. -/
def Site.Carries (s : Site) (t : Text) : Prop :=
  ('[' : CodePoint) ∈ s.authority → ('%' : CodePoint) ∈ s.authority →
    ∀ c ∈ t, isPathCharacter c = true

instance (s : Site) (t : Text) : Decidable (s.Carries t) := inferInstanceAs (Decidable (_ → _ → _))

/-- Behind a zone the escape of a blank is itself encoded. -/
example : (prepare "http://[fe80::1%25eth0]/a b").toOption =
    some "http://[fe80::1%25eth0]/a%2520b" := by
  decide +kernel

/-- **What may stand behind an authority**: nothing, or a path, without marks that end it. -/
structure IsBehind (path : Text) : Prop where
  begins : path = [] ∨ ∃ rest : Text, path = CodePoint.ofChar '/' :: rest
  plain : ∀ c ∈ path, c ≠ '?' ∧ c ≠ '#'

variable {scheme authority path t : Text} {c : CodePoint}

theorem isBare_iff : isBare c = true ↔ IsInner c ∧ c ≠ '\\' ∧ c ≠ '@' := by
  simp only [isBare, IsInner, Bool.and_eq_true, bne_iff_ne]
  constructor
  · rintro ⟨⟨⟨⟨slash, backslash⟩, mark⟩, hash⟩, user⟩
    exact ⟨⟨slash, mark, hash⟩, backslash, user⟩
  · rintro ⟨⟨slash, mark, hash⟩, backslash, user⟩
    exact ⟨⟨⟨⟨slash, backslash⟩, mark⟩, hash⟩, user⟩

theorem scheme_cases (h : scheme ∈ schemes) : scheme = "http" ∨ scheme = "https" := by
  simpa [schemes] using h

/-! ## Taking an address apart -/

theorem cutScheme_eq (h : scheme ∈ schemes) (isMark : CodePoint → Bool) (rest : Text) :
    Reference.cutScheme isMark (scheme ++ "://" ++ rest) = some (scheme, "//" ++ rest) := by
  rcases scheme_cases h with rfl | rfl <;> rfl

theorem asciiLower_scheme (h : scheme ∈ schemes) : Text.asciiLower scheme = scheme := by
  rcases scheme_cases h with rfl | rfl <;> decide

/-- An authority ends where the path begins. -/
theorem takeWhile_authority {inside : CodePoint → Bool} (h : ∀ c ∈ authority, inside c = true)
    (slash : inside '/' = false) (behind : IsBehind path) :
    (authority ++ path).takeWhile inside = authority := by
  rw [List.takeWhile_append_of_pos h]
  rcases behind.begins with rfl | ⟨rest, rfl⟩
  · rw [List.takeWhile_nil, List.append_nil]
  · rw [List.takeWhile_cons_of_neg (by rw [slash]; decide), List.append_nil]

/-- **The components** are the authority and the path. -/
theorem components_eq (h : scheme ∈ schemes)
    (bare : ∀ c ∈ authority, isBare c = true) (behind : IsBehind path) :
    components (scheme ++ "://" ++ authority ++ path) =
      ⟨some scheme, some authority, path, [], []⟩ := by
  have apart : scheme ++ "://" ++ authority ++ path = scheme ++ "://" ++ (authority ++ path) :=
    List.append_assoc ..
  have plain : ∀ c ∈ "//" ++ (authority ++ path), c ≠ '?' ∧ c ≠ '#' := by
    have behindSlashes : ∀ c ∈ authority ++ path, c ≠ '?' ∧ c ≠ '#' :=
      List.forall_mem_append.mpr ⟨fun c hc => (isBare_iff.mp (bare c hc)).1.2, behind.plain⟩
    exact List.forall_mem_cons.mpr
      ⟨by decide, List.forall_mem_cons.mpr ⟨by decide, behindSlashes⟩⟩
  have noMark : ('?' : CodePoint) ∉ "//" ++ (authority ++ path) := fun mark =>
    (plain _ mark).1 rfl
  have noHash : ('#' : CodePoint) ∉ "//" ++ (authority ++ path) := fun hash =>
    (plain _ hash).2 rfl
  have inside : ∀ c ∈ authority, (c != '/' && c != '\\') = true := by
    intro c hc
    have marks := isBare_iff.mp (bare c hc)
    simp [marks.1.1, marks.2.1]
  have ends := takeWhile_authority inside (by decide) behind
  have slashes : Text.startsWith "//" ("//" ++ (authority ++ path)) = true := rfl
  have body : ("//" ++ (authority ++ path)).drop 2 = authority ++ path := rfl
  simp only [components, apart, cutScheme_eq h, Option.isSome_some, Bool.or_true, if_true,
    asciiLower_scheme h, Text.cut_of_notMem noHash, Text.cut_of_notMem noMark, slashes, body, ends,
    List.drop_left, Option.getD_none]

/-! ## Putting it together again -/

/-- **How a socket is given** behind a host: not at all, or by its number. -/
inductive IsSocket : Text → Nat → Prop
  | missing : IsSocket [] 0
  | given {n : Nat} (exists_socket : n ≤ socketLimit) : IsSocket ((":" : Text) ++ Decimal.ofNat n) n

/-- **How an authority is written** in an address: its host in its normal form, and the number of
its socket, or zero. -/
structure IsWritten (authority host : Text) (number : Nat) : Prop where
  found : ∃ h, hostAndSocket? authority = some (h, number) ∧ h.normal = .ok host ∧ h ≠ .name []
  exists_socket : number ≤ socketLimit
  begins : ¬ (host.head? = some ('*' : CodePoint) ∨ host.head? = some ('.' : CodePoint))

theorem cutLast_of_notMem {mark : CodePoint} (h : mark ∉ t) : cutLast mark t = (none, t) := by
  rw [cutLast, Text.cut_of_notMem (mt List.mem_reverse.mp h)]

/-- **An address is accepted** for its authority alone, and then what is written of the authority
does not depend on the path behind it. -/
theorem ofAddress_eq_ok_iff {address : Text} (h : scheme ∈ schemes)
    (bare : ∀ c ∈ authority, isBare c = true) (behind : IsBehind path) :
    ofAddress (scheme ++ "://" ++ authority ++ path) = .ok address ↔
      ∃ host number, IsWritten authority host number ∧
        address = canonical (scheme ++ "://" ++ joinAuthority [] host number
          ++ normalPath true path) := by
  have noUser : ('@' : CodePoint) ∉ authority := fun user =>
    (isBare_iff.mp (bare _ user)).2.2 rfl
  have known : schemes.contains scheme = true := List.contains_iff_mem.mpr h
  have nothing : ∀ keeps mark, Reference.marked mark (encodeComponent keeps []) = [] :=
    fun _ _ => rfl
  have noName : encodeComponent isUserCharacter [] = [] := rfl
  simp only [ofAddress, components_eq h bare behind, Option.getD_some, cutLast_of_notMem noUser,
    known, normalised, Option.getD_none, nothing, noName, List.append_nil, if_true]
  constructor
  · intro done
    split at done
    · cases done
    · next found number hostAndSocket =>
      split at done
      · cases done
      · next small =>
        obtain ⟨known, normal, done⟩ := exists_of_bind_eq_ok done
        cases form : found.normal with
        | error r =>
          rw [form] at normal
          cases normal
        | ok host =>
          rw [form] at normal
          cases normal
          split at done
          · cases done
          · next named =>
            obtain ⟨_, same, done⟩ := exists_of_bind_eq_ok done
            cases same
            split at done
            · cases done
            · next begins =>
              cases done
              exact ⟨host, number,
                ⟨⟨found, hostAndSocket, form, named⟩, Nat.not_lt.mp small, begins⟩, rfl⟩
  · rintro ⟨host, number, ⟨⟨found, hostAndSocket, normal, named⟩, small, begins⟩, rfl⟩
    rw [hostAndSocket]
    simp only [if_neg (Nat.not_lt.mpr small), normal]
    exact (if_neg named).trans (if_neg begins)

theorem isAddressCharacter_of_isUnreserved (h : isUnreserved c = true) :
    isAddressCharacter c = true := by
  rw [isAddressCharacter, h, Bool.true_or]

/-- What is so for all path characters of ASCII is so for all path characters. -/
theorem of_isPathCharacter {p : CodePoint → Prop} (h : isPathCharacter c = true)
    (ascii : ∀ n < 0x80, isPathCharacter (.ofNat n) = true → p (.ofNat n)) : p c := by
  have marks : ∀ c ∈ ("!$&'()*+,;=:@/" : Text), c.val < 0x80 := by
    have all : ("!$&'()*+,;=:@/" : Text).all (fun c => c.val < 0x80) = true := by decide
    intro c hc
    simpa using List.all_eq_true.mp all c hc
  have small : c.val < 0x80 := by
    by_cases unreserved : isUnreserved c = true
    · exact lt_of_isUnreserved unreserved
    · refine marks c ?_
      have other : isUnreserved c = false := Bool.eq_false_iff.mpr unreserved
      simp only [isPathCharacter, isUserCharacter, other, isSubDelimiter, Bool.false_or,
        Bool.or_eq_true, List.contains_iff_mem, beq_iff_eq] at h
      rcases h with ((h | rfl) | rfl) | rfl
      · exact List.mem_append_left (":@/" : Text) h
      · decide
      · decide
      · decide
  rw [← CodePoint.ofNat_val c] at h ⊢
  exact ascii _ small h

/-- A character of a path may stand anywhere in an address, and ends no path. -/
theorem isAddressCharacter_of_isPathCharacter (h : isPathCharacter c = true) :
    isAddressCharacter c = true ∧ c ≠ '?' ∧ c ≠ '#' := by
  apply of_isPathCharacter h
  decide +kernel

/-- A number of a socket has no marks but the colon in front of it. -/
theorem IsSocket.forall_mem {socket : Text} {n : Nat} (h : IsSocket socket n) :
    ∀ c ∈ socket, c = ':' ∨ isUnreserved c = true := by
  cases h with
  | missing => nofun
  | given _ =>
    intro c hc
    rcases List.mem_cons.mp hc with rfl | hc
    · exact .inl rfl
    · simp [isUnreserved, Decimal.isAsciiDigit_of_mem_ofNat hc]

theorem exists_joinAuthority_eq (host : Text) {n : Nat} (exists_socket : n ≤ socketLimit) :
    ∃ socket, IsSocket socket n ∧ joinAuthority [] host n = host ++ socket := by
  by_cases none : n = 0
  · rw [none]
    exact ⟨[], .missing, rfl⟩
  · refine ⟨_, .given exists_socket, ?_⟩
    rw [joinAuthority, if_neg none]
    rfl

/-! ## The last look at the escapes -/

theorem isAlphanumeric_slash : Text.isAlphanumeric '/' = false := by
  have slash : ('/' : CodePoint).val = 0x2F := by decide
  have changes : Text.alphanumerics.hasNat 0x2F =
      CodeSet.oddChanges 0x2F [0x30, 0x3A, 0x41, 0x5B, 0x61] :=
    CodeSet.hasNat_extended_of_lt (by decide) [0x30, 0x3A, 0x41, 0x5B, 0x61] _
  rw [Text.isAlphanumeric, CodeSet.has, slash, changes]
  rfl

/-- No escape goes beyond a slash. -/
theorem decodeUnreserved?_cons_slash (c : CodePoint) (rest : Text) :
    decodeUnreserved? (c :: CodePoint.ofChar '/' :: rest) =
      (decodeUnreserved? (CodePoint.ofChar '/' :: rest)).map (c :: ·) := by
  cases rest with
  | nil => rfl
  | cons b rest => rw [decodeUnreserved?, if_neg (by simp [isAlphanumeric_slash])]

/-- What stands behind a slash and has no percent signs is left as it is. -/
theorem decodeUnreserved?_append_slash {rest : Text} (plain : ('%' : CodePoint) ∉ rest) (t : Text) :
    decodeUnreserved? (t ++ CodePoint.ofChar '/' :: rest) =
      (decodeUnreserved? t).map (· ++ CodePoint.ofChar '/' :: rest) := by
  have path : decodeUnreserved? (CodePoint.ofChar '/' :: rest) =
      some (CodePoint.ofChar '/' :: rest) := by
    have escaped : Escaped (fun _ => True) (CodePoint.ofChar '/' :: rest) :=
      .char trivial (by decide) (.of_forall fun c hc => ⟨trivial, fun same => plain (same ▸ hc)⟩)
    exact decodeUnreserved?_of_escaped escaped
  fun_induction decodeUnreserved? t
  case case1 mark a b t escape m n second first character unreserved ih =>
    rw [List.cons_append, List.cons_append, List.cons_append, decodeUnreserved?, if_pos escape,
      first, second]
    dsimp only
    rw [if_pos unreserved, ih, Option.map_map, Option.map_map]
    rfl
  case case2 mark a b t escape m n second first character reserved ih =>
    rw [List.cons_append, List.cons_append, List.cons_append, decodeUnreserved?, if_pos escape,
      first, second]
    dsimp only
    rw [if_neg reserved, ih, Option.map_map, Option.map_map]
    rfl
  case case3 mark a b t escape noDigits =>
    rw [List.cons_append, List.cons_append, List.cons_append, decodeUnreserved?, if_pos escape]
    split
    · next m n first second => exact (noDigits m n first second).elim
    · rfl
  case case4 mark a b t noEscape ih =>
    rw [List.cons_append, List.cons_append, List.cons_append, decodeUnreserved?, if_neg noEscape,
      ← List.cons_append, ← List.cons_append, ih, Option.map_map, Option.map_map]
    rfl
  case case5 t short =>
    -- one of the two characters behind a percent sign would be the slash
    cases t with
    | nil => exact path
    | cons c t =>
      cases t with
      | nil =>
        rw [List.singleton_append, decodeUnreserved?_cons_slash, path, Option.map_some]
        rfl
      | cons a t =>
        cases t with
        | nil =>
          rw [List.cons_append, List.singleton_append, decodeUnreserved?,
            if_neg (by simp [isAlphanumeric_slash]), decodeUnreserved?_cons_slash, path,
            Option.map_some, Option.map_some]
          rfl
        | cons b t => exact (short c a b t rfl).elim

/-- A character of an address that was looked over was there before, or belongs to an escape. -/
theorem cases_of_mem_canonical (h : c ∈ canonical t) :
    (c ∈ t ∧ isAddressCharacter c = true) ∨ c = '%' ∨ isUnreserved c = true := by
  rw [canonical] at h
  split at h
  · next decoded =>
    rcases cases_of_mem_encode h with ⟨mem, kept⟩ | escape
    · rcases (Bool.or_eq_true _ _).mp kept with kept | percent
      · exact (cases_of_mem_decodeUnreserved? decoded mem).imp (⟨·, kept⟩) .inr
      · exact .inr (.inl (beq_iff_eq.mp percent))
    · exact .inr escape
  · exact cases_of_mem_encode h

/-- **The last look** leaves the parts apart: what is in front of an authority stays as it is, and
so does a path, if it has no percent signs or the authority has none but those of escapes. -/
theorem canonical_append {front written path : Text}
    (plain : ∀ c ∈ front, isAddressCharacter c = true ∧ c ≠ '%')
    (encoded : Escaped (isAddressCharacter · = true) path)
    (begins : ∃ rest : Text, path = CodePoint.ofChar '/' :: rest)
    (apart : Escaped (fun _ => True) written ∨ ('%' : CodePoint) ∉ path) :
    canonical (front ++ (written ++ path)) = front ++ canonical written ++ path := by
  have noPercent : ('%' : CodePoint) ∉ front := fun percent => (plain _ percent).2 rfl
  have decoded : decodeUnreserved? (front ++ (written ++ path)) =
      (decodeUnreserved? written).map fun w => front ++ (w ++ path) := by
    have inner : decodeUnreserved? (written ++ path) =
        (decodeUnreserved? written).map (· ++ path) := by
      rcases apart with escaped | none
      · have whole := escaped.append (encoded.mono fun _ _ => trivial)
        rw [decodeUnreserved?_of_escaped whole, decodeUnreserved?_of_escaped escaped]
        rfl
      · obtain ⟨rest, rfl⟩ := begins
        exact decodeUnreserved?_append_slash (mt (List.mem_cons_of_mem _) none) written
    rw [decodeUnreserved?_append noPercent, inner, Option.map_map]
    rfl
  have kept : ∀ c ∈ path, isAddressCharacter c = true ∨ c = '%' :=
    encoded.forall_mem (fun _ => .inl) (.inr rfl) fun _ h =>
      .inl (isAddressCharacter_of_isUnreserved h)
  rw [canonical, canonical, decoded]
  -- what cannot be decoded is encoded together with its percent signs, so that a path with escapes
  -- would not stay as it is
  cases known : decodeUnreserved? written with
  | some w =>
    have keptFront : ∀ c ∈ front, (isAddressCharacter c || c == '%') = true := by
      intro c hc
      rw [(plain c hc).1, Bool.true_or]
    have keptPath : ∀ c ∈ path, (isAddressCharacter c || c == '%') = true := by
      intro c hc
      rcases kept c hc with kept | rfl
      · rw [kept, Bool.true_or]
      · decide
    simp only [Option.map_some, encode_append, encode_eq_self keptFront, encode_eq_self keptPath,
      List.append_assoc]
  | none =>
    have none : ('%' : CodePoint) ∉ path := by
      rcases apart with escaped | none
      · rw [decodeUnreserved?_of_escaped escaped] at known
        cases known
      · exact none
    have keptPath : ∀ c ∈ path, isAddressCharacter c = true := fun c hc =>
      (kept c hc).resolve_right fun same => none (same ▸ hc)
    simp only [Option.map_none, encode_append, encode_eq_self fun c hc => (plain c hc).1,
      encode_eq_self keptPath, List.append_assoc]

/-- The parts of an address with a path that was encoded. -/
theorem canonical_eq {written : Text} (h : scheme ∈ schemes)
    (encoded : Escaped (isPathCharacter · = true) path)
    (begins : ∃ rest : Text, path = CodePoint.ofChar '/' :: rest)
    (apart : Escaped (fun _ => True) written ∨ ('%' : CodePoint) ∉ path) :
    canonical (scheme ++ "://" ++ written ++ path) =
      scheme ++ "://" ++ canonical written ++ path := by
  have plain : ∀ c ∈ scheme ++ "://", isAddressCharacter c = true ∧ c ≠ '%' := by
    have all : (scheme ++ "://").all (fun c => isAddressCharacter c && c != '%') = true := by
      rcases scheme_cases h with rfl | rfl <;> decide
    intro c hc
    simpa using List.all_eq_true.mp all c hc
  have inAddress : Escaped (isAddressCharacter · = true) path :=
    encoded.mono fun _ hc => (isAddressCharacter_of_isPathCharacter hc).1
  rw [List.append_assoc, canonical_append plain inAddress begins apart]

/-! ## Checking the address -/

/-- **An address is read** as the parts that it was put together from, if its authority is one. -/
theorem ofText_eq {authority : Text} (h : scheme ∈ schemes) (inner : ∀ c ∈ authority, IsInner c)
    (behind : IsBehind path) (kept : ∀ c ∈ authority ++ path, Reference.isLost c = false) :
    Reference.ofText [] (scheme ++ "://" ++ authority ++ path) =
      match Reference.authorityFault? authority with
      | some f => .error f
      | none => .ok ⟨scheme, authority, path, [], []⟩ := by
  have apart : scheme ++ "://" ++ authority ++ path = scheme ++ "://" ++ (authority ++ path) :=
    List.append_assoc ..
  have front : (scheme ++ "://" ++ (authority ++ path)).dropWhile (fun c => c.val ≤ 0x20) =
      scheme ++ "://" ++ (authority ++ path) := by
    rcases scheme_cases h with rfl | rfl <;> rfl
  have whole : (scheme ++ "://" ++ (authority ++ path)).filter (fun c => !Reference.isLost c) =
      scheme ++ "://" ++ (authority ++ path) := by
    refine List.filter_eq_self.mpr fun c hc => ?_
    rcases List.mem_append.mp hc with hc | hc
    · have all : (scheme ++ "://").all (fun c => !Reference.isLost c) = true := by
        rcases scheme_cases h with rfl | rfl <;> decide
      exact List.all_eq_true.mp all c hc
    · rw [kept c hc]
      rfl
  have inside : ∀ c ∈ authority, (c != '/' && c != '?' && c != '#') = true := by
    intro c hc
    have := inner c hc
    simp [this.1, this.2.1, this.2.2]
  have ends := takeWhile_authority inside (by decide) behind
  have slashes : Text.startsWith "//" ("//" ++ (authority ++ path)) = true := rfl
  have body : ("//" ++ (authority ++ path)).drop 2 = authority ++ path := rfl
  have noHash : ('#' : CodePoint) ∉ path := fun hash => (behind.plain _ hash).2 rfl
  have noMark : ('?' : CodePoint) ∉ path := fun mark => (behind.plain _ mark).1 rfl
  cases fault : Reference.authorityFault? authority <;>
    simp only [Reference.ofText, apart, front, whole, cutScheme_eq h, asciiLower_scheme h, slashes,
      body, ends, List.drop_left, if_true, Text.cut_of_notMem noHash, Text.cut_of_notMem noMark,
      Option.getD_none, fault]

theorem isSupported_of_scheme (h : scheme ∈ schemes) (rest : Text) :
    isSupported (scheme ++ "://" ++ rest) = true := by
  refine List.any_eq_true.mpr ⟨scheme, h, ?_⟩
  rcases scheme_cases h with rfl | rfl <;> rfl

theorem isLost_of_isAddressCharacter (h : isAddressCharacter c = true) :
    Reference.isLost c = false := by
  apply Bool.eq_false_iff.mpr
  intro lost
  simp only [Reference.isLost, Bool.or_eq_true, beq_iff_eq] at lost
  rcases lost with (rfl | rfl) | rfl <;> exact absurd h (by decide)

/-- The last look leaves no character in an authority that ends it or is lost. -/
theorem isInner_canonical {written : Text} (inner : ∀ c ∈ written, IsInner c) :
    ∀ c ∈ canonical written, IsInner c ∧ Reference.isLost c = false := by
  intro c hc
  rcases cases_of_mem_canonical hc with ⟨mem, kept⟩ | rfl | unreserved
  · exact ⟨inner c mem, isLost_of_isAddressCharacter kept⟩
  · decide
  · exact ⟨isInner_of_isUnreserved unreserved,
      isLost_of_isAddressCharacter (isAddressCharacter_of_isUnreserved unreserved)⟩

/-- What stands in an address in the place of a path. -/
theorem isBehind_of_escaped (h : Escaped (isPathCharacter · = true) path)
    (begins : ∃ rest : Text, path = CodePoint.ofChar '/' :: rest) :
    IsBehind path ∧ ∀ c ∈ path, Reference.isLost c = false := by
  have all : ∀ c ∈ path, (c ≠ '?' ∧ c ≠ '#') ∧ Reference.isLost c = false := by
    refine h.forall_mem ?_ (by decide) ?_
    · intro c hc
      have := isAddressCharacter_of_isPathCharacter hc
      exact ⟨this.2, isLost_of_isAddressCharacter this.1⟩
    · intro c hc
      exact ⟨(isInner_of_isUnreserved hc).2,
        isLost_of_isAddressCharacter (isAddressCharacter_of_isUnreserved hc)⟩
  exact ⟨⟨.inr begins, fun c hc => (all c hc).1⟩, fun c hc => (all c hc).2⟩

/-- The parts of the finished address. -/
theorem ofText_canonical {written : Text} (h : scheme ∈ schemes)
    (inner : ∀ c ∈ written, IsInner c) (encoded : Escaped (isPathCharacter · = true) path)
    (begins : ∃ rest : Text, path = CodePoint.ofChar '/' :: rest) :
    Reference.ofText [] (scheme ++ "://" ++ canonical written ++ path) =
      match Reference.authorityFault? (canonical written) with
      | some f => .error f
      | none => .ok ⟨scheme, canonical written, path, [], []⟩ := by
  have marks := isInner_canonical inner
  obtain ⟨behind, kept⟩ := isBehind_of_escaped encoded begins
  refine ofText_eq h (fun c hc => (marks c hc).1) behind fun c hc => ?_
  rcases List.mem_append.mp hc with hc | hc
  · exact (marks c hc).2
  · exact kept c hc

/-- **The finished address** is one that can be used just if its authority is one. -/
theorem check_eq_ok_iff {address written : Text} (h : scheme ∈ schemes)
    (inner : ∀ c ∈ written, IsInner c) (encoded : Escaped (isPathCharacter · = true) path)
    (begins : ∃ rest : Text, path = CodePoint.ofChar '/' :: rest) :
    check (scheme ++ "://" ++ canonical written ++ path) = .ok address ↔
      Reference.authorityFault? (canonical written) = none ∧
        address = scheme ++ "://" ++ canonical written ++ path := by
  have supported : isSupported (scheme ++ "://" ++ canonical written ++ path) = true := by
    rw [List.append_assoc]
    exact isSupported_of_scheme h _
  rw [check, ofText_canonical h inner encoded begins, supported, if_pos rfl]
  cases Reference.authorityFault? (canonical written) with
  | none =>
    constructor
    · intro done
      cases done
      exact ⟨rfl, rfl⟩
    · rintro ⟨-, rfl⟩
      rfl
  | some f =>
    constructor
    · intro done
      cases done
    · rintro ⟨none, -⟩
      cases none

/-! ## Paths -/

/-- **A path that is kept**: it begins with a slash, and has no marks that end it or begin an
escape, and no dot segments. -/
structure IsPath (path : Text) : Prop where
  rooted : ∃ rest : Text, path = CodePoint.ofChar '/' :: rest
  plain : ∀ c ∈ path, c ≠ '?' ∧ c ≠ '#' ∧ c ≠ '%'
  noDots : ∀ segment ∈ Text.split '/' path, segment ≠ "." ∧ segment ≠ ".."

/-- A path as it stands in an address. -/
def encodedPath (path : Text) : Text :=
  Percent.encode (fun c => isPathCharacter c || c == '%') path

theorem IsPath.behind (h : IsPath path) : IsBehind path :=
  ⟨.inr h.rooted, fun c hc => ⟨(h.plain c hc).1, (h.plain c hc).2.1⟩⟩

theorem IsPath.escaped (h : IsPath path) :
    Escaped (isPathCharacter · = true) (encodedPath path) := by
  have raw : Escaped (fun _ => True) path := .of_forall fun c hc => ⟨trivial, (h.plain c hc).2.2⟩
  have unreserved : ∀ c, isUnreserved c = true → isPathCharacter c = true := by
    intro c hc
    rw [isPathCharacter, isUserCharacter, hc]
    rfl
  exact (raw.encode unreserved).mono fun _ hc => hc.1

theorem IsPath.begins (h : IsPath path) :
    ∃ rest : Text, encodedPath path = CodePoint.ofChar '/' :: rest := by
  obtain ⟨rest, rfl⟩ := h.rooted
  exact ⟨encodedPath rest, rfl⟩

/-- Segments without dot segments are all kept. -/
theorem withoutDots_eq {segments : List Text} (h : ∀ s ∈ segments, s ≠ "." ∧ s ≠ "..") :
    Reference.withoutDots segments = segments := by
  have fold : ∀ kept : List Text, segments.foldl
      (fun (kept : List Text) (s : Text) =>
        if s = "." then kept else if s = ".." then kept.dropLast else kept ++ [s]) kept =
      kept ++ segments := by
    induction segments with
    | nil => exact fun kept => (List.append_nil kept).symm
    | cons s rest ih =>
      intro kept
      have here := h s (List.mem_cons_self ..)
      rw [List.foldl_cons, if_neg here.1, if_neg here.2,
        ih fun s hs => h s (List.mem_cons_of_mem _ hs), List.append_assoc, List.singleton_append]
  exact fold []

theorem endsInDots_eq_false {segments : List Text} (h : ∀ s ∈ segments, s ≠ "." ∧ s ≠ "..") :
    Reference.endsInDots segments = false := by
  have last : segments.getLastD [] ≠ "." ∧ segments.getLastD [] ≠ ".." := by
    rw [List.getLastD_eq_getLast?]
    cases last : segments.getLast? with
    | none => decide
    | some s => exact h s (List.mem_of_getLast? last)
  rw [Reference.endsInDots, beq_eq_false_iff_ne.mpr last.1, beq_eq_false_iff_ne.mpr last.2,
    Bool.or_false]

theorem removeDots_eq (h : IsPath path) : removeDots path = path := by
  have joined : Text.join "/" (Text.split '/' path) = path := Text.join_split '/' path
  have isRooted : ((Text.split '/' path).length != 0 &&
      ((Text.split '/' path).headD []).isEmpty) = true := by
    obtain ⟨rest, rfl⟩ := h.rooted
    rw [Text.split_cons_self]
    rfl
  simp only [removeDots, withoutDots_eq h.noDots, endsInDots_eq_false h.noDots, isRooted,
    Bool.not_true, Bool.and_false, Bool.false_eq_true, if_false, List.nil_append, List.append_nil,
    joined]

theorem normalPath_eq (h : IsPath path) : normalPath true path = encodedPath path := by
  have plain : ('%' : CodePoint) ∉ path := fun percent => (h.plain _ percent).2.2 rfl
  have encoded : encodeComponent isPathCharacter path = encodedPath path :=
    encodeComponent_of_notMem plain
  obtain ⟨rest, begins⟩ := h.begins
  simp only [normalPath, normalised, if_true, removeDots_eq h, encoded]
  rw [begins]
  rfl

/-! ## Sites -/

theorem Site.forall_bare (s : Site) : ∀ c ∈ s.authority, isBare c = true :=
  List.all_eq_true.mp s.bare

theorem prepare_eq (h : scheme ∈ schemes) (rest : Text) :
    prepare (scheme ++ "://" ++ rest) =
      match ofAddress (scheme ++ "://" ++ rest) with
      | .error r => .error (.complaint r.message)
      | .ok address => check address := by
  have front : Text.stripStart (scheme ++ "://" ++ rest) = scheme ++ "://" ++ rest := by
    rcases scheme_cases h with rfl | rfl <;> rfl
  have begins : Text.startsWith "http" (Text.asciiLower (scheme ++ "://" ++ rest)) = true := by
    rcases scheme_cases h with rfl | rfl <;> rfl
  cases base : ofAddress (scheme ++ "://" ++ rest) <;>
    simp only [prepare, front, begins, Bool.not_true, Bool.and_false, Bool.false_eq_true, if_false,
      base]

/-- What is written of an authority has no mark that ends it, and has no other percent signs than
those of escapes unless there is a zone. -/
theorem IsWritten.joined {host : Text} {number : Nat}
    (bare : ∀ c ∈ authority, isBare c = true)
    (h : IsWritten authority host number) : (∀ c ∈ joinAuthority [] host number, IsInner c) ∧
      ((('[' : CodePoint) ∈ authority → ('%' : CodePoint) ∉ authority) →
        Escaped (fun _ => True) (joinAuthority [] host number)) := by
  obtain ⟨_, found, normal, -⟩ := h.found
  obtain ⟨kept, escaped⟩ := escaped_normal (fun c hc => (isBare_iff.mp (bare c hc)).1) found normal
  obtain ⟨socket, isSocket, joined⟩ := exists_joinAuthority_eq host h.exists_socket
  have plain : ∀ c ∈ socket, IsInner c ∧ c ≠ '%' := by
    intro c hc
    rcases isSocket.forall_mem c hc with rfl | unreserved
    · decide
    · exact ⟨isInner_of_isUnreserved unreserved, ne_percent_of_isUnreserved unreserved⟩
  rw [joined]
  refine ⟨List.forall_mem_append.mpr ⟨kept, fun c hc => (plain c hc).1⟩, fun noZone => ?_⟩
  exact ((escaped noZone).mono fun _ _ => trivial).append
    (.of_forall fun c hc => ⟨trivial, (plain c hc).2⟩)

/-- **An address without a path** can be used if its authority is written in some way, and what is
written is one that an address may have. -/
theorem isOk_prepare_iff (h : scheme ∈ schemes)
    (bare : ∀ c ∈ authority, isBare c = true) :
    (prepare (scheme ++ "://" ++ authority)).isOk = true ↔
      ∃ host number, IsWritten authority host number ∧
        Reference.authorityFault? (canonical (joinAuthority [] host number)) = none := by
  have nothing : IsBehind [] := ⟨.inl rfl, nofun⟩
  -- the finished address ends in a slash
  have slash : Escaped (isPathCharacter · = true) "/" := .char (by decide) (by decide) .nil
  have finished : ∀ host number, canonical (scheme ++ "://" ++ joinAuthority [] host number ++
      normalPath true []) = scheme ++ "://" ++ canonical (joinAuthority [] host number) ++ "/" := by
    intro host number
    have alone : normalPath true [] = "/" := by decide
    rw [alone, canonical_eq h slash ⟨[], rfl⟩ (.inr (by decide))]
  have address : ∀ base, ofAddress (scheme ++ "://" ++ authority) = .ok base ↔
      ∃ host number, IsWritten authority host number ∧
        base = scheme ++ "://" ++ canonical (joinAuthority [] host number) ++ "/" := by
    intro base
    rw [← List.append_nil (scheme ++ "://" ++ authority : Text), ofAddress_eq_ok_iff h bare nothing]
    simp only [finished]
  rw [prepare_eq h]
  constructor
  · intro accepted
    split at accepted
    · cases accepted
    · next base isBase =>
      obtain ⟨host, number, written, rfl⟩ := (address base).mp isBase
      obtain ⟨_, checked⟩ := exists_of_isOk accepted
      have usable := (check_eq_ok_iff h (written.joined bare).1 slash ⟨[], rfl⟩).mp checked
      exact ⟨host, number, written, usable.1⟩
  · rintro ⟨host, number, written, usable⟩
    rw [(address _).mpr ⟨host, number, written, rfl⟩]
    dsimp only
    rw [(check_eq_ok_iff h (written.joined bare).1 slash ⟨[], rfl⟩).mpr ⟨usable, rfl⟩]
    rfl

/-- The authority of a site is written in one way, and it is one that an address may have. -/
theorem Site.exists_isWritten (s : Site) : ∃ host number, IsWritten s.authority host number ∧
    Reference.authorityFault? (canonical (joinAuthority [] host number)) = none :=
  (isOk_prepare_iff s.isScheme s.forall_bare).mp s.accepted

theorem Site.authority_ne_nil (s : Site) : s.authority ≠ [] := by
  obtain ⟨_, _, ⟨⟨h, found, -, named⟩, -, -⟩, -⟩ := s.exists_isWritten
  intro empty
  have nobody : hostAndSocket? [] = some (.name [], 0) := by decide
  rw [empty, nobody] at found
  cases found
  exact named rfl

/-- What a site with a zone carries is not encoded. -/
theorem Site.Carries.percent_notMem {s : Site} (h : s.Carries path) (isPath : IsPath path)
    (bracket : ('[' : CodePoint) ∈ s.authority) (percent : ('%' : CodePoint) ∈ s.authority) :
    ('%' : CodePoint) ∉ encodedPath path := by
  have kept : ∀ c ∈ path, (isPathCharacter c || c == '%') = true := by
    intro c hc
    rw [h bracket percent c hc, Bool.true_or]
  rw [encodedPath, encode_eq_self kept]
  exact fun percent => (isPath.plain _ percent).2.2 rfl

/-- **An address below a site** can be used, and it is read as the path that is behind it: the
authority is the same for all of them. -/
theorem Site.exists_prepare (s : Site) : ∃ authority, ∀ path, IsPath path → s.Carries path →
    prepare (s.text ++ path) = .ok (s.scheme ++ "://" ++ authority ++ encodedPath path) ∧
      check (s.scheme ++ "://" ++ authority ++ encodedPath path) =
        .ok (s.scheme ++ "://" ++ authority ++ encodedPath path) ∧
      Reference.ofText [] (s.scheme ++ "://" ++ authority ++ encodedPath path) =
        .ok ⟨s.scheme, authority, encodedPath path, [], []⟩ := by
  obtain ⟨host, number, written, usable⟩ := s.exists_isWritten
  obtain ⟨inner, escaped⟩ := written.joined s.forall_bare
  refine ⟨canonical (joinAuthority [] host number), fun path h carried => ?_⟩
  have apart : Escaped (fun _ => True) (joinAuthority [] host number) ∨
      ('%' : CodePoint) ∉ encodedPath path := by
    by_cases zone : ('[' : CodePoint) ∈ s.authority ∧ ('%' : CodePoint) ∈ s.authority
    · exact .inr (carried.percent_notMem h zone.1 zone.2)
    · exact .inl (escaped (not_and.mp zone))
  have checked := (check_eq_ok_iff s.isScheme inner h.escaped h.begins).mpr ⟨usable, rfl⟩
  refine ⟨?_, checked, ?_⟩
  · have prepared := (ofAddress_eq_ok_iff s.isScheme s.forall_bare h.behind).mpr
      ⟨host, number, written, rfl⟩
    rw [normalPath_eq h, canonical_eq s.isScheme h.escaped h.begins apart, List.append_assoc]
      at prepared
    rw [Site.text, List.append_assoc, prepare_eq s.isScheme, prepared]
    exact checked
  · rw [ofText_canonical s.isScheme inner h.escaped h.begins, usable]

end Url
end Client
end OpenBroker
