import Mathlib.Data.List.Forall2
import OpenBroker.Proofs.JsonNumber
import OpenBroker.Proofs.JsonString
import OpenBroker.Proofs.Keyed

/-! # Documents are read back

What was written for a document is read as a document, as long as its integers are not too long
to be read (`Legible`).  An object is read as an object, but it need not be the same one: pairs
of halves are joined in strings, and of members under one key the last counts.

A regular document (`Regular`) is read as the same document, with the members of every object in
their order: no two members of an object have the same key, strings consist of scalar values, and
numbers are integers.

The reader needs no more nested calls than the text is long.
-/
namespace OpenBroker

namespace Keyed

variable {α : Type}

theorem foldl_put_of_nodup (entries pairs : Keyed α) (distinct : (keys (entries ++ pairs)).Nodup) :
    pairs.foldl (fun entries e => put e.1 e.2 entries) entries = entries ++ pairs := by
  induction pairs generalizing entries with
  | nil => rw [List.foldl_nil, List.append_nil]
  | cons e rest ih =>
    -- a new key goes to the end
    have new : e.1 ∉ keys entries := by
      rw [keys_append, keys_cons] at distinct
      exact fun old => (List.nodup_append.mp distinct).2.2 _ old _ (List.mem_cons_self ..) rfl
    rw [List.append_cons] at distinct
    rw [List.foldl_cons, put_of_notMem new, ih _ distinct, ← List.append_cons]

/-- Pairs without a repetition of keys are entries as they stand. -/
theorem ofPairs_of_nodup {pairs : Keyed α} (distinct : (keys pairs).Nodup) :
    ofPairs pairs = pairs :=
  foldl_put_of_nodup [] pairs distinct

end Keyed

namespace Json

variable {j : Json} {c : CodePoint} {s t rest word : Text} {fuel : Nat}

/-- **Regular document**: no key occurs twice in an object, no string has half of a surrogate
pair in it, and all numbers are integers that are short enough to be read. -/
inductive Regular : Json → Prop
  | null : Regular .null
  | bool (b : Bool) : Regular (.bool b)
  | int (n : Int) (short : n.natAbs < Nat.pow 10 Literal.digitLimit) : Regular (.int n)
  | string (s : Text) (scalar : ∀ c ∈ s, c.isScalar = true) : Regular (.string s)
  | array (items : List Json) (regular : ∀ j ∈ items, Regular j) : Regular (.array items)
  | object (members : List (Text × Json)) (distinct : (Keyed.keys members).Nodup)
    (scalar : ∀ e ∈ members, ∀ c ∈ e.1, c.isScalar = true)
    (regular : ∀ e ∈ members, Regular e.2) : Regular (.object members)

/-- **Legible document**: its integers are short enough to be read. -/
inductive Legible : Json → Prop
  | null : Legible .null
  | bool (b : Bool) : Legible (.bool b)
  | int (n : Int) (short : n.natAbs < Nat.pow 10 Literal.digitLimit) : Legible (.int n)
  | real (x : Binary64) : Legible (.real x)
  | string (s : Text) : Legible (.string s)
  | array (items : List Json) (legible : ∀ j ∈ items, Legible j) : Legible (.array items)
  | object (members : List (Text × Json)) (legible : ∀ e ∈ members, Legible e.2) :
    Legible (.object members)

theorem Regular.legible (regular : Regular j) : Legible j := by
  induction regular with
  | null => exact .null
  | bool b => exact .bool b
  | int n short => exact .int n short
  | string s => exact .string s
  | array items _ ih => exact .array items ih
  | object members _ _ _ ih => exact .object members ih

/-! ## Arrays and objects -/

/-- **Proper separators** are a comma and a colon with any number of blanks behind them. -/
structure Style.Proper (style : Style) : Prop where
  item : ∃ n, style.item = CodePoint.ofChar ',' :: Text.replicate n ' '
  member : ∃ n, style.member = CodePoint.ofChar ':' :: Text.replicate n ' '

theorem proper_spaced : spaced.Proper := ⟨⟨1, rfl⟩, ⟨1, rfl⟩⟩

theorem proper_compact : compact.Proper := ⟨⟨0, rfl⟩, ⟨0, rfl⟩⟩

variable {style : Style}

theorem skip_of_not_isSpace (h : isSpace c = false) : skip (c :: s) = c :: s := by
  simp [skip, h]

theorem skip_replicate (n : Nat) (s : Text) : skip (Text.replicate n ' ' ++ s) = skip s := by
  induction n with
  | zero => rfl
  | succ n ih => exact ih

/-- What a document begins with is no blank, nothing that could be the end of an array, and
no mark of an encoding. -/
structure Begins (c : CodePoint) : Prop where
  noSpace : isSpace c = false
  noBracket : c ≠ ']'
  ascii : c.val < 0x80

theorem begins_digit (digit : c.isAsciiDigit = true) : Begins c := by
  have range := CodePoint.isAsciiDigit_iff.mp digit
  refine ⟨?_, CodePoint.ne_of_isAsciiDigit digit (by decide), by omega⟩
  simp only [isSpace, Bool.or_eq_false_iff, beq_eq_false_iff_ne]
  omega

theorem exists_head_write (style : Style) (j : Json) :
    ∃ c t, write style j = c :: t ∧ Begins c := by
  cases j with
  | bool b => cases b <;> exact ⟨_, _, rfl, by decide, by decide, by decide⟩
  | int n =>
    obtain ⟨c, ds, digit, written | written⟩ := Decimal.exists_head_ofInt n
    · exact ⟨c, ds, written, begins_digit digit⟩
    · exact ⟨_, _, written, by decide, by decide, by decide⟩
  | real x =>
    obtain ⟨c, s, written, digit | rfl | rfl | rfl⟩ := exists_head_writeReal x
    · exact ⟨c, s, written, begins_digit digit⟩
    all_goals exact ⟨_, s, written, by decide, by decide, by decide⟩
  | null | string | array | object => exact ⟨_, _, rfl, by decide, by decide, by decide⟩

/-- Blanks in front of a written document are skipped. -/
theorem skip_write (style : Style) (j : Json) (n : Nat) (rest : Text) :
    skip (Text.replicate n ' ' ++ (write style j ++ rest)) = write style j ++ rest := by
  obtain ⟨c, t, written, begins⟩ := exists_head_write style j
  rw [skip_replicate, written, List.cons_append, skip_of_not_isSpace begins.noSpace]

/-- **What is written for a document is read** as a document, whatever closes it. -/
structure ReadsAs (style : Style) (j j' : Json) : Prop where
  reads : ∀ {fuel rest}, (write style j).length ≤ fuel → Closes rest →
    value fuel (write style j ++ rest) = .ok (j', rest)

/-- **Members are read** like their values, under the keys that are read. -/
structure MemberReadsAs (style : Style) (e e' : Text × Json) : Prop where
  key : e'.1 = joinHalves e.1
  value : ReadsAs style e.2 e'.2

theorem items_last (read : value fuel s = .ok (j, CodePoint.ofChar ']' :: rest)) :
    items (fuel + 1) s = .ok ([j], rest) := by
  rw [items, read]
  rfl

theorem items_more {js : List Json} (read : value fuel s = .ok (j, CodePoint.ofChar ',' :: t))
    (more : items fuel (skip t) = .ok (js, rest)) : items (fuel + 1) s = .ok (j :: js, rest) := by
  have comma : skip (CodePoint.ofChar ',' :: t) = CodePoint.ofChar ',' :: t := rfl
  have noBracket : CodePoint.ofChar ',' ≠ ']' := by decide
  rw [items, read]
  simp only [bind, Except.bind, comma, if_neg noBracket, if_true, more]

theorem writeItems_cons (style : Style) (j : Json) (js : List Json) :
    ∃ t, writeItems style (j :: js) = write style j ++ t := by
  cases js with
  | nil => exact ⟨[], (List.append_nil _).symm⟩
  | cons next others => exact ⟨_, List.append_assoc ..⟩

/-- **The items of an array are read**, as soon as each of them is. -/
theorem items_writeItems (proper : style.Proper) {js js' : List Json}
    (read : List.Forall₂ (ReadsAs style) js js') (nonempty : js ≠ [])
    (enough : (writeItems style js).length < fuel) (rest : Text) :
    items fuel (writeItems style js ++ CodePoint.ofChar ']' :: rest) = .ok (js', rest) := by
  induction read generalizing fuel with
  | nil => exact absurd rfl nonempty
  | @cons j j' more more' here others ih =>
    obtain ⟨fuel, rfl⟩ := Nat.exists_eq_add_one_of_ne_zero (Nat.ne_zero_of_lt enough)
    -- the call for an item is one deeper than the call for the items, and so is the call for
    -- the items behind it, but their text is shorter by a comma at least
    cases others with
    | nil =>
      exact items_last (here.reads (Nat.lt_succ_iff.mp enough) (closes_cons (.inr (.inl rfl))))
    | @cons next next' more more' _ _ =>
      obtain ⟨n, item⟩ := proper.item
      have written : writeItems style (j :: next :: more) = write style j ++
          CodePoint.ofChar ',' :: (Text.replicate n ' ' ++ writeItems style (next :: more)) := by
        rw [writeItems, item, List.append_assoc, List.cons_append]
      rw [written, List.length_append, List.length_cons, List.length_append] at enough
      have readOthers : items fuel (writeItems style (next :: more) ++
          CodePoint.ofChar ']' :: rest) = .ok (next' :: more', rest) :=
        ih (List.cons_ne_nil _ _) (by omega)
      rw [written, List.append_assoc, List.cons_append, List.append_assoc]
      refine items_more (here.reads (by omega) (closes_cons (.inl rfl))) ?_
      obtain ⟨t, first⟩ := writeItems_cons style next more
      rw [first, List.append_assoc, skip_write, ← List.append_assoc, ← first]
      exact readOthers

theorem members_last {key : Text}
    (name : stringBody (CodePoint.ofChar '"' :: s) s = .ok (key, CodePoint.ofChar ':' :: t))
    (read : value fuel (skip t) = .ok (j, CodePoint.ofChar '\x7d' :: rest)) :
    members (fuel + 1) (CodePoint.ofChar '"' :: s) = .ok ([(key, j)], rest) := by
  have colon : skip (CodePoint.ofChar ':' :: t) = CodePoint.ofChar ':' :: t := rfl
  have brace : skip (CodePoint.ofChar '\x7d' :: rest) = CodePoint.ofChar '\x7d' :: rest := rfl
  rw [members, if_pos rfl, name]
  simp only [bind, Except.bind, colon, read, brace, if_true]

theorem members_more {key u : Text} {es : List (Text × Json)}
    (name : stringBody (CodePoint.ofChar '"' :: s) s = .ok (key, CodePoint.ofChar ':' :: t))
    (read : value fuel (skip t) = .ok (j, CodePoint.ofChar ',' :: u))
    (more : members fuel (skip u) = .ok (es, rest)) :
    members (fuel + 1) (CodePoint.ofChar '"' :: s) = .ok ((key, j) :: es, rest) := by
  have colon : skip (CodePoint.ofChar ':' :: t) = CodePoint.ofChar ':' :: t := rfl
  have comma : skip (CodePoint.ofChar ',' :: u) = CodePoint.ofChar ',' :: u := rfl
  have noBrace : CodePoint.ofChar ',' ≠ '\x7d' := by decide
  rw [members, if_pos rfl, name]
  simp only [bind, Except.bind, colon, read, comma, if_neg noBrace, if_true, more]

/-- What a written member consists of. -/
theorem writeMember_eq (proper : style.Proper) : ∃ n, ∀ (key : Text) (j : Json) (rest : Text),
    writeString key ++ style.member ++ write style j ++ rest =
      CodePoint.ofChar '"' :: (key.flatMap escapedPoint ++ CodePoint.ofChar '"' ::
        CodePoint.ofChar ':' :: (Text.replicate n ' ' ++ (write style j ++ rest))) := by
  obtain ⟨n, member⟩ := proper.member
  refine ⟨n, fun key j rest => ?_⟩
  rw [writeString, member]
  simp only [List.append_assoc, List.cons_append]
  rfl

theorem writeMembers_cons (style : Style) (e : Text × Json) (es : List (Text × Json)) :
    ∃ t, writeMembers style (e :: es) = CodePoint.ofChar '"' :: t := by
  cases es with
  | nil => exact ⟨_, rfl⟩
  | cons next others => exact ⟨_, rfl⟩

/-- **The members of an object are read**, as soon as each of their values is. -/
theorem members_writeMembers (proper : style.Proper) {es es' : List (Text × Json)}
    (read : List.Forall₂ (MemberReadsAs style) es es')
    (nonempty : es ≠ []) (enough : (writeMembers style es).length < fuel) (rest : Text) :
    members fuel (writeMembers style es ++ CodePoint.ofChar '\x7d' :: rest) = .ok (es', rest) := by
  induction read generalizing fuel with
  | nil => exact absurd rfl nonempty
  | @cons e e' more more' here others ih =>
    obtain ⟨fuel, rfl⟩ := Nat.exists_eq_add_one_of_ne_zero (Nat.ne_zero_of_lt enough)
    obtain ⟨key, j⟩ := e
    obtain ⟨key', j'⟩ := e'
    obtain ⟨rfl : key' = joinHalves key, here : ReadsAs style j j'⟩ := here
    have name (rest : Text) := stringBody_written
      (CodePoint.ofChar '"' :: (key.flatMap escapedPoint ++ CodePoint.ofChar '"' :: rest)) key rest
    obtain ⟨n, member⟩ := writeMember_eq proper
    cases others with
    | nil =>
      have short : (write style j).length ≤ fuel := by
        simp only [writeMembers, List.length_append] at enough
        omega
      rw [writeMembers, member]
      refine members_last (name _) ?_
      rw [skip_write]
      exact here.reads short (closes_cons (.inr (.inr (.inl rfl))))
    | @cons next next' more more' _ _ =>
      obtain ⟨k, item⟩ := proper.item
      have written : writeMembers style ((key, j) :: next :: more) =
          writeString key ++ style.member ++ write style j ++ CodePoint.ofChar ',' ::
            (Text.replicate k ' ' ++ writeMembers style (next :: more)) := by
        rw [writeMembers, item, List.append_assoc, List.cons_append]
      rw [written] at enough ⊢
      simp only [List.length_append, List.length_cons] at enough
      have readOthers : members fuel (writeMembers style (next :: more) ++
          CodePoint.ofChar '\x7d' :: rest) = .ok (next' :: more', rest) :=
        ih (List.cons_ne_nil _ _) (by omega)
      have behind : skip (Text.replicate k ' ' ++ (writeMembers style (next :: more) ++
          CodePoint.ofChar '\x7d' :: rest)) =
          writeMembers style (next :: more) ++ CodePoint.ofChar '\x7d' :: rest := by
        obtain ⟨t, first⟩ := writeMembers_cons style next more
        rw [skip_replicate, first, List.cons_append, skip_of_not_isSpace (by decide)]
      rw [← behind] at readOthers
      rw [List.append_assoc, member, List.cons_append, List.append_assoc]
      refine members_more (name _) ?_ readOthers
      rw [skip_write]
      exact here.reads (by omega) (closes_cons (.inl rfl))

/-! ## Documents -/

/-- A first call of the reader can always be made, as no text of a document is empty. -/
theorem ReadsAs.of_succ {j' : Json}
    (read : ∀ fuel rest, (write style j).length ≤ fuel + 1 → Closes rest →
      value (fuel + 1) (write style j ++ rest) = .ok (j', rest)) : ReadsAs style j j' := by
  refine ⟨fun {fuel rest} enough closes => ?_⟩
  obtain ⟨c, t, written, -⟩ := exists_head_write style j
  have positive : fuel ≠ 0 := by
    rintro rfl
    rw [written] at enough
    exact Nat.not_succ_le_zero _ enough
  obtain ⟨fuel, rfl⟩ := Nat.exists_eq_add_one_of_ne_zero positive
  exact read fuel rest enough closes

theorem value_of_scalar (quote : c ≠ '"') (brace : c ≠ '\x7b') (bracket : c ≠ '[') :
    value (fuel + 1) (c :: s) = scalar (c :: s) := by
  rw [value]
  simp only [if_neg quote, if_neg brace, if_neg bracket]

theorem value_ofInt (n : Int) (rest : Text) :
    value (fuel + 1) (Decimal.ofInt n ++ rest) = number (Decimal.ofInt n ++ rest) := by
  rw [← scalar_ofInt]
  obtain ⟨c, ds, digit, written⟩ := Decimal.exists_head_ofInt n
  have other {d : CodePoint} := CodePoint.ne_of_isAsciiDigit (d := d) digit
  rcases written with written | written
  · rw [written]
    exact value_of_scalar (other (by decide)) (other (by decide)) (other (by decide))
  · rw [written]
    exact value_of_scalar (by decide) (by decide) (by decide)

theorem value_array {js : List Json} (begins : Begins c)
    (read : items fuel (c :: s) = .ok (js, rest)) :
    value (fuel + 1) (CodePoint.ofChar '[' :: c :: s) = .ok (.array js, rest) := by
  have noQuote : CodePoint.ofChar '[' ≠ '"' := by decide
  have noBrace : CodePoint.ofChar '[' ≠ '\x7b' := by decide
  rw [value]
  simp only [if_neg noQuote, if_neg noBrace, if_true, skip_of_not_isSpace begins.noSpace,
    if_neg begins.noBracket, read]
  rfl

theorem value_object {es : List (Text × Json)}
    (read : members fuel (CodePoint.ofChar '"' :: s) = .ok (es, rest)) :
    value (fuel + 1) (CodePoint.ofChar '\x7b' :: CodePoint.ofChar '"' :: s) =
      .ok (.object (Keyed.ofPairs es), rest) := by
  have noQuote : CodePoint.ofChar '\x7b' ≠ '"' := by decide
  have noBrace : CodePoint.ofChar '"' ≠ '\x7d' := by decide
  have start : skip (CodePoint.ofChar '"' :: s) = CodePoint.ofChar '"' :: s := rfl
  rw [value]
  simp only [if_neg noQuote, if_true, start, if_neg noBrace, read]
  rfl

theorem value_null (rest : Text) : value (fuel + 1) ("null" ++ rest) = .ok (.null, rest) :=
  (value_of_scalar (by decide) (by decide) (by decide)).trans (scalar_null rest)

theorem value_bool (b : Bool) (rest : Text) :
    value (fuel + 1) (write style (.bool b) ++ rest) = .ok (.bool b, rest) := by
  cases b with
  | true => exact (value_of_scalar (by decide) (by decide) (by decide)).trans (scalar_true rest)
  | false => exact (value_of_scalar (by decide) (by decide) (by decide)).trans (scalar_false rest)

theorem value_writeString (s rest : Text) :
    value (fuel + 1) (writeString s ++ rest) = .ok (.string (joinHalves s), rest) := by
  have written : writeString s ++ rest = CodePoint.ofChar '"' ::
      (s.flatMap escapedPoint ++ CodePoint.ofChar '"' :: rest) := by
    simp only [writeString, List.append_assoc]
    rfl
  rw [written, value]
  simp only [if_true, stringBody_written]
  rfl

theorem exists_value_writeReal (x : Binary64) : ∃ y, ∀ fuel rest, Closes rest →
    value (fuel + 1) (writeReal x ++ rest) = .ok (.real y, rest) := by
  obtain ⟨y, read⟩ := exists_scalar_writeReal x
  refine ⟨y, fun fuel rest closes => Eq.trans ?_ (read rest closes)⟩
  obtain ⟨c, s, written, digit | rfl | rfl | rfl⟩ := exists_head_writeReal x
  · have other {d : CodePoint} := CodePoint.ne_of_isAsciiDigit (d := d) digit
    rw [written]
    exact value_of_scalar (other (by decide)) (other (by decide)) (other (by decide))
  all_goals
    rw [written]
    exact value_of_scalar (by decide) (by decide) (by decide)

theorem readsAs_array (proper : style.Proper) {js js' : List Json}
    (read : List.Forall₂ (ReadsAs style) js js') : ReadsAs style (.array js) (.array js') := by
  refine .of_succ fun fuel rest enough _ => ?_
  have written : write style (.array js) ++ rest = CodePoint.ofChar '[' ::
      (writeItems style js ++ CodePoint.ofChar ']' :: rest) := by
    simp only [write, List.append_assoc]
    rfl
  have length := congrArg List.length written
  simp only [List.length_append, List.length_cons] at length
  rw [written]
  cases js with
  | nil =>
    cases read
    rfl
  | cons first others =>
    have bounded : (writeItems style (first :: others)).length < fuel := by omega
    have read := items_writeItems proper read (List.cons_ne_nil _ _) bounded rest
    obtain ⟨c, t, head, begins⟩ := exists_head_write style first
    obtain ⟨t', start⟩ := writeItems_cons style first others
    rw [start, head, List.cons_append, List.cons_append] at read ⊢
    exact value_array begins read

theorem readsAs_object (proper : style.Proper) {es es' : List (Text × Json)}
    (read : List.Forall₂ (MemberReadsAs style) es es') :
    ReadsAs style (.object es) (.object (Keyed.ofPairs es')) := by
  refine .of_succ fun fuel rest enough _ => ?_
  have written : write style (.object es) ++ rest = CodePoint.ofChar '\x7b' ::
      (writeMembers style es ++ CodePoint.ofChar '\x7d' :: rest) := by
    simp only [write, List.append_assoc]
    rfl
  have length := congrArg List.length written
  simp only [List.length_append, List.length_cons] at length
  rw [written]
  cases es with
  | nil =>
    cases read
    rfl
  | cons first others =>
    have bounded : (writeMembers style (first :: others)).length < fuel := by omega
    have read := members_writeMembers proper read (List.cons_ne_nil _ _) bounded rest
    obtain ⟨t, start⟩ := writeMembers_cons style first others
    rw [start, List.cons_append] at read ⊢
    rw [value_object read]

theorem exists_forall₂ {α β : Type} {R : α → β → Prop} {l : List α} (h : ∀ a ∈ l, ∃ b, R a b) :
    ∃ l', List.Forall₂ R l l' := by
  induction l with
  | nil => exact ⟨[], .nil⟩
  | cons a l ih =>
    obtain ⟨b, first⟩ := h a (List.mem_cons_self ..)
    obtain ⟨l', others⟩ := ih fun a ha => h a (List.mem_cons_of_mem _ ha)
    exact ⟨b :: l', .cons first others⟩

/-- **Every legible document is read** as a document, and an object as an object. -/
theorem exists_readsAs (proper : style.Proper) (legible : Legible j) :
    ∃ j', ReadsAs style j j' ∧ ∀ es, j = .object es → ∃ es', j' = .object es' := by
  induction legible with
  | null => exact ⟨.null, .of_succ fun fuel rest _ _ => value_null rest, nofun⟩
  | bool b => exact ⟨.bool b, .of_succ fun fuel rest _ _ => value_bool b rest, nofun⟩
  | int n short =>
    refine ⟨.int n, .of_succ fun fuel rest _ closes => ?_, nofun⟩
    exact (value_ofInt n rest).trans (number_ofInt short closes)
  | real x =>
    obtain ⟨y, read⟩ := exists_value_writeReal x
    exact ⟨.real y, .of_succ fun fuel rest _ => read fuel rest, nofun⟩
  | string s =>
    exact ⟨.string (joinHalves s), .of_succ fun fuel rest _ _ => value_writeString s rest, nofun⟩
  | array items legible ih =>
    obtain ⟨items', read⟩ : ∃ items', List.Forall₂ (ReadsAs style) items items' :=
      exists_forall₂ fun j hj => (ih j hj).imp fun _ h => h.1
    exact ⟨.array items', readsAs_array proper read, nofun⟩
  | object members legible ih =>
    obtain ⟨members', read⟩ : ∃ members', List.Forall₂ (MemberReadsAs style) members members' := by
      refine exists_forall₂ fun e he => ?_
      obtain ⟨j', read, -⟩ := ih e he
      exact ⟨(joinHalves e.1, j'), rfl, read⟩
    exact ⟨.object (Keyed.ofPairs members'), readsAs_object proper read, fun _ _ => ⟨_, rfl⟩⟩

/-- **Every regular document is read back.** -/
theorem readsAs_of_regular (proper : style.Proper) (regular : Regular j) : ReadsAs style j j := by
  induction regular with
  | null => exact .of_succ fun fuel rest _ _ => value_null rest
  | bool b => exact .of_succ fun fuel rest _ _ => value_bool b rest
  | int n short =>
    refine .of_succ fun fuel rest _ closes => ?_
    exact (value_ofInt n rest).trans (number_ofInt short closes)
  | string s scalar =>
    refine .of_succ fun fuel rest _ _ => ?_
    rw [write, value_writeString, joinHalves_of_isScalar scalar]
  | array items regular ih => exact readsAs_array proper (List.forall₂_same.mpr ih)
  | object members distinct scalar regular ih =>
    have read := readsAs_object proper (List.forall₂_same.mpr fun e he =>
      ⟨(joinHalves_of_isScalar (scalar e he)).symm, ih e he⟩)
    rwa [Keyed.ofPairs_of_nodup distinct] at read

/-- A written document is read, whether or not its line is ended. -/
theorem read_of_readsAs {j' : Json} (reads : ReadsAs style j j') (closes : Closes rest)
    (blank : skip rest = []) : read (write style j ++ rest) = .ok j' := by
  obtain ⟨c, t, written, begins⟩ := exists_head_write style j
  have noMark : ¬ c.val = 0xFEFF := by
    have := begins.ascii
    omega
  have enough : (write style j).length ≤ 2 * (write style j ++ rest).length + 2 := by
    rw [List.length_append]
    omega
  have reads := reads.reads enough closes
  rw [written, List.cons_append] at reads ⊢
  unfold read
  simp only [if_neg noMark, skip_of_not_isSpace begins.noSpace, reads, blank]

/-- **A written string is read**, with its pairs joined. -/
theorem read_writeString (s : Text) : read (writeString s) = .ok (.string (joinHalves s)) := by
  have reads : ReadsAs spaced (.string s) (.string (joinHalves s)) :=
    .of_succ fun _ rest _ _ => value_writeString s rest
  have read := read_of_readsAs reads closes_nil rfl
  rwa [List.append_nil] at read

/-- **Reading undoes writing.** -/
theorem read_write (proper : style.Proper) (regular : Regular j) :
    read (write style j) = .ok j := by
  have read := read_of_readsAs (readsAs_of_regular proper regular) closes_nil rfl
  rwa [List.append_nil] at read

end Json
end OpenBroker
