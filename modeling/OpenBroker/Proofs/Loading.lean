import OpenBroker.Proofs.Catalog
import OpenBroker.Proofs.Overlong

/-! # How loading a catalog fails

Loading a catalog gives a document with a list of services, or an error.  Most of what can be
wrong with a file makes a catalog error, which a caller expects: the file cannot be opened, it is
no JSON, or there is no list of services in it.

Some of it does not (`Escapes`).  The operating system cannot be asked for some paths at all;
the bytes may be those of no text; and an integer may have too many digits to be read.  Each of
these is an error of another class, and nothing else is: the error is a catalog error just when
none of them is the case (`load_or_escapes`).
-/
namespace OpenBroker

/-! ## The classes of errors -/

/-- A standard class has the name it is found by, unless that is a second name. -/
theorem ErrorClass.name_named {name : Text}
    (first : StandardError.systemNames.contains name = false) : (named name).name = name := by
  have found : (StandardError.named name).name = name := by
    simp only [StandardError.named, StandardError.find?, first, Bool.false_eq_true, if_false]
    cases h : StandardError.all.find? fun e => e.name = name with
    | none => rfl
    | some e => exact of_decide_eq_true (List.find?_some h :)
  exact found

/-- Only errors with a number are refined. -/
theorem Failure.className_of_text {cls : ErrorClass} {t : Text} {rest : List Value} :
    (raised cls (.text t :: rest)).className = cls.name := by
  have plain : refinedName? cls (.text t :: rest) = none := by
    unfold refinedName?
    split
    · next same =>
      cases same
      exact ite_self none
    · rfl
  rw [className, plain]
  rfl

/-! ## The characters of a path -/

namespace Path

variable {c : CodePoint} {t : Text}

theorem notMem_rootOf (noSlash : c ≠ '/') : c ∉ rootOf t := by
  have single : c ∉ ("/" : Text) := List.mem_singleton.not.mpr noSlash
  unfold rootOf
  split
  · exact List.not_mem_nil
  · exact List.not_mem_cons_of_ne_of_not_mem noSlash single
  · exact single

/-- **The characters of a path** are those of its text, but for slashes and dots that were left
out. -/
theorem mem_text_ofText_iff (noSlash : c ≠ '/') (noDot : c ≠ '.') :
    c ∈ (ofText t).text ↔ c ∈ t := by
  have noRoot : c ∉ (ofText t).root := notMem_rootOf noSlash
  have between : c ∉ ("/" : Text) := List.mem_singleton.not.mpr noSlash
  have kept {name : Text} (h : c ∈ name) : (!name.isEmpty && name != ("." : Text)) = true := by
    have some : name ≠ [] := List.ne_nil_of_mem h
    have other : name ≠ "." := by
      rintro rfl
      exact noDot (List.mem_singleton.mp h)
    simp [some, other]
  have whole : c ∈ (ofText t).root ++ Text.join "/" (ofText t).names ↔ c ∈ t := by
    rw [List.mem_append, or_iff_right noRoot]
    constructor
    · intro h
      obtain ⟨name, named, here⟩ := (Text.mem_join h).resolve_left between
      exact Text.mem_of_mem_split (List.mem_filter.mp named).1 here
    · intro h
      obtain ⟨name, named, here⟩ := Text.exists_mem_split_of_mem h noSlash
      exact Text.mem_join_of_mem (List.mem_filter.mpr ⟨named, kept here⟩) here
  unfold text
  split
  · next nothing =>
    rw [nothing] at whole
    exact iff_of_false (List.mem_singleton.not.mpr noDot) (whole.not.mp List.not_mem_nil)
  · exact whole

end Path

namespace Catalog

variable {entries : List (Text × Files.Entry)} {path t : Text} {content : List UInt8}

/-! ## Which errors are catalog errors -/

namespace LoadError

/-- **The expected errors** of a bad catalog. -/
def IsExpected : LoadError → Prop
  | unreadable _ _ | malformed _ _ | noObject | noServices => True
  | undecodable _ _ | integerTooLong _ | unencodable _ | unaddressable => False

theorem exists_catalogError_iff {e : LoadError} :
    (∃ message, e.failure = .raised .catalog [.text message]) ↔ e.IsExpected := by
  cases e with
  | unreadable | malformed | noObject | noServices => exact iff_of_true ⟨_, rfl⟩ trivial
  | undecodable | integerTooLong | unencodable | unaddressable =>
    exact iff_of_false nofun not_false

/-- The classes of the errors that are not expected. -/
theorem className_mem_of_not_isExpected {e : LoadError} (h : ¬ e.IsExpected) :
    e.failure.className ∈
      (["ValueError", "UnicodeDecodeError", "UnicodeEncodeError"] : List Text) := by
  cases e with
  | unreadable | malformed | noObject | noServices => exact absurd trivial h
  | integerTooLong | unaddressable | undecodable | unencodable =>
    simp only [failure, Failure.standard, Failure.undecodable, failure.ofHalves]
    rw [Failure.className_of_text, ErrorClass.name_named (by decide)]
    simp

end LoadError

/-! ## What makes them -/

/-- **Illegible**: bytes that are the encoding of no text, or of one with an integer that is too
long. -/
inductive Illegible (content : List UInt8) : Prop
  | bytes (noText : ∀ t : Text, (∀ c ∈ t, c.isScalar = true) → Utf8.encode t ≠ content)
  | digits {t : Text} {n : Nat} (scalar : ∀ c ∈ t, c.isScalar = true)
    (encoded : Utf8.encode t = content)
    (long : Json.read (uniformLines t) = .error (.integerTooLong n))

/-- **Escapes**: what makes loading fail otherwise than with a catalog error.  In the path there
is a half of a surrogate pair that stands for no byte, or a zero; or a file is found there and
cannot be read as a text. -/
inductive Escapes (entries : List (Text × Files.Entry)) (path : Text) : Prop
  | half {c : CodePoint} (part : c ∈ path) (lone : c.isScalar = false)
    (noByte : c.val < 0xDC80 ∨ 0xDCFF < c.val)
  | zero (part : (0 : CodePoint) ∈ path)
  | content {content : List UInt8}
    (stored : Files.read entries (Path.ofText path) = .ok content) (illegible : Illegible content)

/-- A path has bytes unless there is a half of a surrogate pair in it that stands for none. -/
theorem isEncodable_iff : Files.isEncodable (Path.ofText path) = true ↔
    ∀ c ∈ path, c.isScalar = true ∨ 0xDC80 ≤ c.val ∧ c.val ≤ 0xDCFF := by
  have nameable {c : CodePoint} : Files.isNameable c = true ↔
      c.isScalar = true ∨ 0xDC80 ≤ c.val ∧ c.val ≤ 0xDCFF := by
    simp only [Files.isNameable, Bool.or_eq_true, Bool.and_eq_true, decide_eq_true_eq]
  have same {c : CodePoint} (lone : c.isScalar ≠ true) :
      c ∈ (Path.ofText path).text ↔ c ∈ path := by
    refine Path.mem_text_ofText_iff ?_ ?_ <;> rintro rfl <;> exact lone (by decide)
  rw [Files.isEncodable, List.all_eq_true]
  constructor
  · intro all c part
    by_cases scalar : c.isScalar = true
    · exact .inl scalar
    · exact nameable.mp (all c ((same scalar).mpr part))
  · intro all c part
    by_cases scalar : c.isScalar = true
    · exact nameable.mpr (.inl scalar)
    · exact nameable.mpr (all c ((same scalar).mp part))

/-- A path with bytes can be asked for unless there is a zero in it. -/
theorem isAddressable_iff (encodable : Files.isEncodable (Path.ofText path) = true) :
    Files.isAddressable (Path.ofText path) = true ↔ (0 : CodePoint) ∉ path := by
  have same : (0 : CodePoint) ∈ (Path.ofText path).text ↔ (0 : CodePoint) ∈ path :=
    Path.mem_text_ofText_iff (by decide) (by decide)
  rw [Files.isAddressable, encodable, Bool.true_and, Bool.not_eq_true', List.any_eq_false, ← same]
  constructor
  · exact fun none part => none 0 part rfl
  · intro none c part zero
    exact none ((Fin.ext (beq_iff_eq.mp zero) : c = 0) ▸ part)

/-- **Of what can be asked for** only the content can be at fault. -/
theorem escapes_iff (addressable : Files.isAddressable (Path.ofText path) = true) :
    Escapes entries path ↔
      ∃ content, Files.read entries (Path.ofText path) = .ok content ∧ Illegible content := by
  have encodable : Files.isEncodable (Path.ofText path) = true :=
    (Bool.and_eq_true_iff.mp addressable).1
  constructor
  · intro escapes
    cases escapes with
    | half part lone noByte =>
      rcases isEncodable_iff.mp encodable _ part with scalar | byte
      · rw [scalar] at lone
        cases lone
      · omega
    | zero part => exact absurd part ((isAddressable_iff encodable).mp addressable)
    | content stored illegible => exact ⟨_, stored, illegible⟩
  · rintro ⟨content, stored, illegible⟩
    exact .content stored illegible

theorem illegible_encode_iff (scalar : ∀ c ∈ t, c.isScalar = true) :
    Illegible (Utf8.encode t) ↔
      ∃ n, Json.read (uniformLines t) = .error (.integerTooLong n) := by
  constructor
  · intro illegible
    cases illegible with
    | bytes noText => exact absurd rfl (noText t scalar)
    | digits scalar' encoded long =>
      cases Utf8.eq_of_encode_eq scalar' scalar encoded
      exact ⟨_, long⟩
  · exact fun ⟨n, long⟩ => .digits scalar rfl long

/-! ## Loading -/

theorem checked_cases (j : Json) :
    (checked j = .ok j ∧ HasShape j) ∨ ∃ e, checked j = .error e ∧ e.IsExpected := by
  cases checks : checked j with
  | ok k =>
    obtain ⟨rfl, shape⟩ := hasShape_of_checked checks
    exact .inl ⟨rfl, shape⟩
  | error e =>
    refine .inr ⟨e, rfl, ?_⟩
    unfold checked at checks
    repeat' split at checks
    all_goals cases checks
    all_goals trivial

/-- **Explained** by whether anything escapes: a document has the shape of a catalog, and nothing
does; an error is an expected one just when nothing does. -/
def Explained (escapes : Prop) : Except LoadError Json → Prop
  | .ok j => HasShape j ∧ ¬ escapes
  | .error e => e.IsExpected ↔ ¬ escapes

theorem explained_ofBytes (p : Path) (content : List UInt8) :
    Explained (Illegible content) (ofBytes p content) := by
  unfold ofBytes
  cases decoded : Utf8.decode content with
  | error e =>
    -- the encoding of a text would have been decoded
    have illegible : Illegible content := by
      refine .bytes fun t scalar encoded => ?_
      rw [← encoded, Utf8.decode_encode scalar] at decoded
      cases decoded
    exact iff_of_false not_false (not_not_intro illegible)
  | ok t =>
    obtain ⟨rfl, scalar⟩ := Utf8.encode_of_decode decoded
    rw [illegible_encode_iff scalar]
    dsimp only
    cases read : Json.read (uniformLines t) with
    | error e =>
      cases e with
      | integerTooLong n => exact iff_of_false not_false (not_not_intro ⟨n, rfl⟩)
      | malformed => exact iff_of_true trivial fun ⟨_, long⟩ => nomatch long
    | ok j =>
      -- what is a document may still have the wrong shape, which is expected
      have legible : ¬ ∃ n, (.ok j : Except Json.ReadError Json) = .error (.integerTooLong n) :=
        fun ⟨_, long⟩ => nomatch long
      rcases checked_cases j with ⟨found, shape⟩ | ⟨e, found, expected⟩
      · simp only [found]
        exact ⟨shape, legible⟩
      · simp only [found]
        exact iff_of_true expected legible

theorem explained_load (entries : List (Text × Files.Entry)) (path : Text) :
    Explained (Escapes entries path) (load entries path) := by
  unfold load
  dsimp only
  by_cases encodable : Files.isEncodable (Path.ofText path) = true
  · rw [encodable]
    by_cases addressable : Files.isAddressable (Path.ofText path) = true
    · rw [addressable, escapes_iff addressable]
      cases found : Files.read entries (Path.ofText path) with
      | error o => exact iff_of_true trivial fun ⟨_, stored, _⟩ => nomatch stored
      | ok content =>
        have same : (∃ content', (.ok content : Except Files.Obstacle _) = .ok content' ∧
            Illegible content') ↔ Illegible content :=
          ⟨fun ⟨_, stored, illegible⟩ => Except.ok.inj stored ▸ illegible,
            fun illegible => ⟨content, rfl, illegible⟩⟩
        rw [same]
        exact explained_ofBytes _ content
    · have zero : (0 : CodePoint) ∈ path :=
        Classical.not_not.mp ((isAddressable_iff encodable).not.mp addressable)
      rw [Bool.eq_false_iff.mpr addressable]
      exact iff_of_false not_false (not_not_intro (.zero zero))
  · have escapes : Escapes entries path := by
      simp only [isEncodable_iff, not_forall, not_or, not_and, Nat.not_le] at encodable
      obtain ⟨c, part, lone, noByte⟩ := encodable
      exact .half part (Bool.eq_false_iff.mpr lone) (by omega)
    rw [Bool.eq_false_iff.mpr encodable]
    exact iff_of_false not_false (not_not_intro escapes)

theorem exists_run_of_ofBytes {p : Path} {n : Nat}
    (h : ofBytes p content = .error (.integerTooLong n)) :
    ∃ t, Utf8.encode t = content ∧ Literal.digitLimit < n ∧ Json.HasRun n (uniformLines t) := by
  unfold ofBytes at h
  split at h
  · cases h
  next t decoded =>
  split at h
  · next m read =>
    cases h
    exact ⟨t, (Utf8.encode_of_decode decoded).1, Json.hasRun_of_read read⟩
  · cases h
  · next j _ =>
    rcases checked_cases j with ⟨found, -⟩ | ⟨e, found, expected⟩
    · rw [found] at h
      cases h
    · rw [found] at h
      cases h
      cases expected

/-- An integer that is refused for its length stands in the file. -/
theorem exists_run_of_load {n : Nat} (h : load entries path = .error (.integerTooLong n)) :
    ∃ t, Files.read entries (Path.ofText path) = .ok (Utf8.encode t) ∧
      Literal.digitLimit < n ∧ Json.HasRun n (uniformLines t) := by
  unfold load at h
  dsimp only at h
  split at h
  · cases h
  split at h
  · cases h
  split at h
  · cases h
  · next content stored =>
    obtain ⟨t, rfl, run⟩ := exists_run_of_ofBytes h
    exact ⟨t, stored, run⟩

/-- **How loading fails.**  The document at a path is loaded, and has the shape of a catalog, or
there is an error.  It is a catalog error just when nothing of what escapes is the case; else it
is an error of a value, of a byte that is decoded, or of a character that is encoded.  If it is for
the length of an integer, then so many digits stand in the file. -/
theorem load_or_escapes (entries : List (Text × Files.Entry)) (path : Text) :
    (∃ j, load entries path = .ok j ∧ HasShape j ∧ ¬ Escapes entries path) ∨
      ∃ e, load entries path = .error e ∧
        ((∃ message, e.failure = .raised .catalog [.text message]) ↔ ¬ Escapes entries path) ∧
        (Escapes entries path → e.failure.className ∈
          (["ValueError", "UnicodeDecodeError", "UnicodeEncodeError"] : List Text)) ∧
        ∀ n, e = .integerTooLong n → Literal.digitLimit < n ∧
          ∃ t, Files.read entries (Path.ofText path) = .ok (Utf8.encode t) ∧
            Json.HasRun n (uniformLines t) := by
  have explained := explained_load entries path
  cases loaded : load entries path with
  | ok j =>
    rw [loaded] at explained
    exact .inl ⟨j, rfl, explained.1, explained.2⟩
  | error e =>
    rw [loaded] at explained
    have expected : e.IsExpected ↔ ¬ Escapes entries path := explained
    refine .inr ⟨e, rfl, LoadError.exists_catalogError_iff.trans expected, fun escapes => ?_, ?_⟩
    · exact LoadError.className_mem_of_not_isExpected fun h => expected.mp h escapes
    · rintro n rfl
      obtain ⟨t, stored, long, run⟩ := exists_run_of_load loaded
      exact ⟨long, t, stored, run⟩

/-- **A byte that begins no character** makes loading fail with an error of another class, though
the path is one that can be asked for and the file can be read. -/
theorem exists_undecodable_of_byte :
    let entries : List (Text × Files.Entry) := [("c.json", .file [0xFF])]
    ∃ e, load entries "c.json" = .error e ∧ e.failure.className = "UnicodeDecodeError" ∧
      ∀ message, e.failure ≠ .raised .catalog [.text message] :=
  ⟨.undecodable [0xFF] ⟨.invalidStart, 0, 1⟩, rfl,
    Failure.className_of_text.trans (ErrorClass.name_named (by decide)), nofun⟩

end Catalog
end OpenBroker
