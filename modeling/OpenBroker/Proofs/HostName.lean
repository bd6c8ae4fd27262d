import OpenBroker.Proofs.Address

/-! # Names of hosts

The address of a server is mostly given by the name of a host, and perhaps by the number of a
socket.  An ordinary name is kept while an address is prepared, but for the case of its letters
(`exists_normal_name`), and none of its characters stands for a mark of an address.  So there is a
site with any such name, for both schemes and all sockets that exist (`exists_site`).
-/
namespace OpenBroker
namespace Client
namespace Url

open Percent

/-- **Ordinary name** of a host: it has no characters that delimit the parts of an address, and it
begins neither with a point nor with a star. -/
structure IsHostName (name : Text) : Prop where
  nonempty : name ≠ []
  begins : ∀ c, name.head? = some c → c ≠ '.' ∧ c ≠ '*'
  characters : ∀ c ∈ name, isUnreserved c = true ∨ isSubDelimiter c = true

variable {name socket scheme form t : Text} {c : CodePoint} {n : Nat}

/-! ## Characters of an ordinary authority -/

/-- What is so for all user characters of ASCII is so for all user characters. -/
theorem of_isUserCharacter {p : CodePoint → Prop} (h : isUserCharacter c = true)
    (ascii : ∀ n < 0x80, isUserCharacter (.ofNat n) = true → p (.ofNat n)) : p c := by
  have path : isPathCharacter c = true := by rw [isPathCharacter, h, Bool.true_or, Bool.true_or]
  revert h
  apply of_isPathCharacter path
  exact fun n small _ => ascii n small

theorem IsHostName.forall_mem (h : IsHostName name) :
    ∀ c ∈ name, isUserCharacter c = true ∧ c ≠ ':' := by
  intro c hc
  have character := h.characters c hc
  constructor
  · rcases character with fits | fits <;> simp [isUserCharacter, fits]
  · rintro rfl
    exact absurd character (by decide)

theorem IsSocket.isUserCharacter (h : IsSocket socket n) :
    ∀ c ∈ socket, isUserCharacter c = true := by
  intro c hc
  rcases h.forall_mem c hc with rfl | unreserved
  · decide
  · simp [Url.isUserCharacter, unreserved]

/-! ## Finding the host -/

theorem dropLineFeed_eq (h : ('\n' : CodePoint) ∉ t) : dropLineFeed t = t :=
  if_neg fun last => h (List.mem_of_getLast? last)

theorem socket?_ofNat (small : n ≤ socketLimit) : socket? (Decimal.ofNat n) = some n := by
  have digits : ∀ c ∈ Decimal.ofNat n, c.isAsciiDigit = true := fun _ =>
    Decimal.isAsciiDigit_of_mem_ofNat
  have noFeed : ('\n' : CodePoint) ∉ Decimal.ofNat n := fun feed =>
    absurd (digits _ feed) (by decide)
  have short : (Decimal.ofNat n).length ≤ 5 :=
    Decimal.length_ofNat_le (by decide) (Nat.lt_of_le_of_lt small (by decide))
  obtain ⟨c, rest, written, zero⟩ := Decimal.exists_head_ofNat n
  by_cases leading : c = '0'
  · rw [zero leading, Decimal.ofNat_of_lt (by decide)]
    decide
  · have significant : (Decimal.ofNat n).dropWhile (· == ('0' : CodePoint)) = Decimal.ofNat n := by
      rw [written]
      exact List.dropWhile_cons_of_neg (by simpa using leading)
    simp only [socket?, dropLineFeed_eq noFeed, significant, List.all_eq_true.mpr digits, short,
      decide_true, Bool.and_self, if_true, Decimal.toNat_ofNat]

/-- **The host** of an ordinary authority is its name. -/
theorem hostAndSocket?_eq (h : IsHostName name) (given : IsSocket socket n) :
    hostAndSocket? (name ++ socket) = some (.name name, n) := by
  have noMark : ∀ c ∈ name ++ socket, c ≠ '[' ∧ c ≠ ']' ∧ c ≠ '%' ∧ c ≠ '\n' := by
    intro c hc
    have character : isUserCharacter c = true := by
      rcases List.mem_append.mp hc with hc | hc
      · exact (h.forall_mem c hc).1
      · exact given.isUserCharacter c hc
    apply of_isUserCharacter character
    decide +kernel
  have noBracket : Text.startsWith "[" (name ++ socket) = false := by
    obtain ⟨c, rest, rfl⟩ := List.exists_cons_of_ne_nil h.nonempty
    have first := (noMark c (List.mem_cons_self ..)).1
    exact Bool.and_eq_false_imp.mpr fun same => absurd (beq_iff_eq.mp same).symm first
  have isName : isName name = true := by
    have whole := escapesWhole_of_notMem fun percent =>
      (noMark _ (List.mem_append_left socket percent)).2.2.1 rfl
    have none : (name.any fun c => c == '[' || c == ']') = false := by
      simp only [List.any_eq_false, Bool.or_eq_true, beq_iff_eq, not_or]
      exact fun c hc =>
        have := noMark c (List.mem_append_left socket hc)
        ⟨this.1, this.2.1⟩
    rw [Url.isName, whole, none]
    rfl
  have ends : (name ++ socket).takeWhile (· != (':' : CodePoint)) = name := by
    rw [List.takeWhile_append_of_pos fun c hc => by simpa using (h.forall_mem c hc).2]
    cases given with
    | missing => exact List.append_nil name
    | given _ => exact List.append_nil name
  have noFeed : dropLineFeed socket = socket :=
    dropLineFeed_eq fun feed => (noMark _ (List.mem_append_right name feed)).2.2.2 rfl
  simp only [hostAndSocket?, noBracket, ends, isName, if_true, Bool.false_eq_true, if_false,
    List.drop_left, noFeed]
  cases given with
  | missing => rfl
  | given small => exact congrArg (Option.map _) (socket?_ofNat small)

/-! ## The host in its normal form -/

theorem plainEscapes_of_notMem (host : Text) (plain : ('%' : CodePoint) ∉ t) :
    plainEscapes host t = .ok t := by
  induction t with
  | nil => rfl
  | cons c rest ih =>
    rw [List.mem_cons, not_or] at plain
    rw [plainEscapes_cons_of_ne host (Ne.symm plain.1), ih plain.2]
    rfl

theorem lowerOutsideEscapes_of_notMem (plain : ('%' : CodePoint) ∉ t) :
    lowerOutsideEscapes t = Text.asciiLower t := by
  induction t with
  | nil => rfl
  | cons c rest ih =>
    rw [List.mem_cons, not_or] at plain
    rw [lowerOutsideEscapes_cons_of_ne (Ne.symm plain.1), ih plain.2]
    rfl

theorem normalLabels_eq {labels : List Text}
    (h : ∀ label ∈ labels, ∀ c ∈ label, c.val < 0x80 ∧ c ≠ '%') :
    normalLabels labels = .ok (labels.map Text.asciiLower) := by
  induction labels with
  | nil => rfl
  | cons label rest ih =>
    have here := h label (List.mem_cons_self ..)
    have ascii : label.all (·.val < 0x80) = true :=
      List.all_eq_true.mpr fun c hc => decide_eq_true (here c hc).1
    have form : normalLabel label = .ok (Text.asciiLower label) := by
      rw [normalLabel, if_pos ascii,
        lowerOutsideEscapes_of_notMem fun percent => (here _ percent).2 rfl]
    rw [normalLabels, form, ih fun l hl => h l (List.mem_cons_of_mem _ hl)]
    rfl

theorem asciiLower_join (labels : List Text) :
    Text.join "." (labels.map Text.asciiLower) = Text.asciiLower (Text.join "." labels) := by
  induction labels with
  | nil => rfl
  | cons label rest ih =>
    cases rest with
    | nil => rfl
    | cons next others =>
      simp only [Text.asciiLower, List.map_cons, Text.join, List.map_append] at ih ⊢
      rw [ih]
      rfl

/-- **An ordinary name in its normal form** is the name, perhaps in lower case. -/
theorem exists_normal_name (h : IsHostName name) : ∃ form, (Host.name name).normal = .ok form ∧
    (form = name ∨ form = Text.asciiLower name) := by
  rw [Host.normal]
  by_cases loose : Numeric.isLoose name = true
  · rw [if_pos loose]
    exact ⟨name, rfl, .inl rfl⟩
  · have fits : ∀ c ∈ name, (isControl c.val || c == ' ') = false ∧ c.val < 0x80 ∧ c ≠ '%' := by
      intro c hc
      apply of_isUserCharacter (h.forall_mem c hc).1
      decide +kernel
    have noControl : name.find? (fun (c : CodePoint) => isControl c.val || c == ' ') = none := by
      simpa using fun c hc => (fits c hc).1
    have plain := plainEscapes_of_notMem name fun percent => (fits _ percent).2.2 rfl
    have labels : normalLabels (Text.split '.' name) =
        .ok ((Text.split '.' name).map Text.asciiLower) :=
      normalLabels_eq fun label hl c hc => (fits c (Text.mem_of_mem_split hl hc)).2
    have joined : Text.join "." (Text.split '.' name) = name := Text.join_split '.' name
    refine ⟨Text.asciiLower name, ?_, .inr rfl⟩
    rw [if_neg loose, noControl]
    simp only [bind, Except.bind, plain, labels, asciiLower_join, joined]

/-- A normal form of an ordinary name begins and is written like one. -/
theorem spec_normal_name (h : IsHostName name) (same : form = name ∨ form = Text.asciiLower name) :
    (∀ c ∈ form, isUserCharacter c = true) ∧
      ¬ (form.head? = some ('*' : CodePoint) ∨ form.head? = some ('.' : CodePoint)) := by
  have lower : ∀ c, isUserCharacter c = true → isUserCharacter c.asciiLower = true ∧
      (c ≠ '.' ∧ c ≠ '*' → c.asciiLower ≠ '.' ∧ c.asciiLower ≠ '*') := by
    intro c hc
    apply of_isUserCharacter hc
    decide +kernel
  obtain ⟨first, rest, rfl⟩ := List.exists_cons_of_ne_nil h.nonempty
  have begins := h.begins first rfl
  rcases same with rfl | rfl
  · refine ⟨fun c hc => (h.forall_mem c hc).1, ?_⟩
    rintro (star | point)
    · exact begins.2 (Option.some.inj star)
    · exact begins.1 (Option.some.inj point)
  · constructor
    · intro c hc
      obtain ⟨d, hd, rfl⟩ := List.mem_map.mp hc
      exact (lower d (h.forall_mem d hd).1).1
    · have begins := (lower first (h.forall_mem first (List.mem_cons_self ..)).1).2 begins
      rintro (star | point)
      · exact begins.2 (Option.some.inj star)
      · exact begins.1 (Option.some.inj point)

theorem exists_isWritten_name (h : IsHostName name) (given : IsSocket socket n) :
    ∃ form, IsWritten (name ++ socket) form n ∧ ∀ c ∈ form, isUserCharacter c = true := by
  obtain ⟨form, normal, same⟩ := exists_normal_name h
  obtain ⟨characters, begins⟩ := spec_normal_name h same
  have found := hostAndSocket?_eq h given
  have named : Host.name name ≠ .name [] := fun none => h.nonempty (Host.name.inj none)
  have small : n ≤ socketLimit := by
    cases given with
    | missing => exact Nat.zero_le _
    | given small => exact small
  exact ⟨form, ⟨⟨_, found, normal, named⟩, small, begins⟩, characters⟩

/-! ## Sites -/

/-- An authority without brackets and marks of other scripts is one that an address may have. -/
theorem authorityFault?_canonical (h : ∀ c ∈ t, isUserCharacter c = true) :
    Reference.authorityFault? (canonical t) = none := by
  have plain : ∀ c ∈ canonical t, c ≠ '[' ∧ c ≠ ']' ∧ c.val ∉ Reference.deceptive := by
    intro c hc
    have character : isUserCharacter c = true ∨ c = '%' := by
      rcases cases_of_mem_canonical hc with ⟨mem, -⟩ | percent | unreserved
      · exact .inl (h c mem)
      · exact .inr percent
      · exact .inl (by simp [isUserCharacter, unreserved])
    rcases character with character | rfl
    · apply of_isUserCharacter character
      decide +kernel
    · decide
  have left : (canonical t).contains '[' = false := by
    simpa using fun bracket => (plain _ bracket).1 rfl
  have right : (canonical t).contains ']' = false := by
    simpa using fun bracket => (plain _ bracket).2.1 rfl
  have noMark : (canonical t).any (fun c => Reference.deceptive.contains c.val) = false := by
    simpa using fun c hc => (plain c hc).2.2
  rw [Reference.authorityFault?, left, right, noMark]
  rfl

/-- **Every ordinary name makes a site**, for both schemes and all sockets that exist.  Since it has
no zone, it carries every text. -/
theorem exists_site (h : scheme ∈ schemes) (isName : IsHostName name) (given : IsSocket socket n) :
    ∃ site : Site, site.text = scheme ++ "://" ++ (name ++ socket) ∧ ∀ t, site.Carries t := by
  have characters : ∀ c ∈ name ++ socket, isUserCharacter c = true :=
    List.forall_mem_append.mpr ⟨fun c hc => (isName.forall_mem c hc).1, given.isUserCharacter⟩
  have marks : ∀ c ∈ name ++ socket, isBare c = true ∧ c ≠ '[' := by
    intro c hc
    apply of_isUserCharacter (characters c hc)
    decide +kernel
  obtain ⟨form, written, formCharacters⟩ := exists_isWritten_name isName given
  have usable : Reference.authorityFault? (canonical (joinAuthority [] form n)) = none := by
    obtain ⟨socket, isSocket, joined⟩ := exists_joinAuthority_eq form written.exists_socket
    rw [joined]
    exact authorityFault?_canonical
      (List.forall_mem_append.mpr ⟨formCharacters, isSocket.isUserCharacter⟩)
  have accepted := (isOk_prepare_iff h fun c hc => (marks c hc).1).mpr ⟨form, n, written, usable⟩
  refine ⟨⟨scheme, name ++ socket, h, List.all_eq_true.mpr fun c hc => (marks c hc).1, accepted⟩,
    rfl, fun t bracket => ?_⟩
  exact absurd rfl (marks _ bracket).2

end Url
end Client
end OpenBroker
