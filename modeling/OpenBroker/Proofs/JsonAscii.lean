import OpenBroker.Proofs.JsonText

/-! # Written documents are plain text

A written document has no character in it but those of ASCII that can be seen, and blanks
(`plain_write`).  So there is no line end in it that could be made uniform, and nothing that
could not be encoded.
-/
namespace OpenBroker

/-- **Plain text**: the visible characters of ASCII, and blanks. -/
def Text.Plain (t : Text) : Prop := ∀ c ∈ t, 0x20 ≤ c.val ∧ c.val < 0x7F

namespace Text

variable {c : CodePoint} {s t : Text}

instance : Decidable t.Plain := List.decidableBAll _ t

theorem plain_nil : Plain [] := fun _ h => nomatch h

theorem plain_append : Plain (s ++ t) ↔ Plain s ∧ Plain t := List.forall_mem_append

theorem Plain.append (hs : Plain s) (ht : Plain t) : Plain (s ++ t) := plain_append.mpr ⟨hs, ht⟩

theorem plain_cons : Plain (c :: t) ↔ (0x20 ≤ c.val ∧ c.val < 0x7F) ∧ Plain t :=
  List.forall_mem_cons

theorem plain_replicate (n : Nat) : Plain (replicate n ' ') := by
  intro c hc
  rw [List.eq_of_mem_replicate hc]
  decide

theorem plain_hex (width n : Nat) : Plain (hex width n) := by
  have digit : ∀ k : Fin 16,
      0x20 ≤ (CodePoint.hexDigit k).val ∧ (CodePoint.hexDigit k).val < 0x7F := by decide
  induction width with
  | zero => exact plain_nil
  | succ width ih => exact plain_cons.mpr ⟨digit ⟨_, Nat.mod_lt _ (by decide)⟩, ih⟩

theorem Plain.isScalar (plain : t.Plain) : ∀ c ∈ t, c.isScalar = true := by
  intro c hc
  have ascii := (plain c hc).2
  exact CodePoint.isScalar_iff.mpr (.inl (by omega))

end Text

open Text

theorem Json.IsRow.plain {ds : Text} (row : IsRow ds) : Plain ds := by
  intro c hc
  have digit := CodePoint.isAsciiDigit_iff.mp (row.digits c hc)
  omega

theorem Decimal.plain_ofInt (n : Int) : Plain (ofInt n) := by
  cases n with
  | ofNat k => exact (Json.isRow_ofNat k).plain
  | negSucc k => exact plain_cons.mpr ⟨by decide, (Json.isRow_ofNat (k + 1)).plain⟩

namespace Json

variable {style : Style}

theorem IsReal.plain {t : Text} (real : IsReal t) : Plain t := by
  obtain ⟨whole, f, e, rfl, isWhole, isFraction, isExponent, -⟩ := real.parts
  refine isWhole.plain.append (Plain.append ?_ ?_)
  · cases isFraction with
    | none => exact plain_nil
    | some ds row => exact plain_cons.mpr ⟨by decide, row.plain⟩
  · cases isExponent with
    | none => exact plain_nil
    | some sign signs ds row =>
      refine plain_cons.mpr ⟨by decide, plain_cons.mpr ⟨?_, row.plain⟩⟩
      rcases signs with rfl | rfl <;> decide

theorem plain_writeReal (x : Binary64) : Plain (writeReal x) := by
  have written := writtenReal_writeReal x
  generalize writeReal x = t at written
  cases written with
  | nan | infinity | negativeInfinity => decide
  | finite real => exact real.plain
  | negative real => exact plain_cons.mpr ⟨by decide, real.plain⟩

theorem plain_escapedUnit (n : Nat) : Plain (escapedUnit n) :=
  Plain.append (by decide) (plain_hex 4 n)

theorem plain_escapedPoint (c : CodePoint) : Plain (escapedPoint c) := by
  have written := written_escapedPoint c
  generalize escapedPoint c = w at written
  cases written with
  | short e other stands printable small =>
    exact plain_cons.mpr ⟨by decide, plain_cons.mpr ⟨printable, plain_nil⟩⟩
  | plain noQuote noEscape printable => exact plain_cons.mpr ⟨printable, plain_nil⟩
  | unit small => exact plain_escapedUnit _
  | pair large => exact (plain_escapedUnit _).append (plain_escapedUnit _)

/-- A written string is plain, whatever is in it. -/
theorem plain_writeString (s : Text) : Plain (writeString s) := by
  refine Plain.append (Plain.append (by decide) ?_) (by decide)
  intro c hc
  obtain ⟨d, -, hc⟩ := List.mem_flatMap.mp hc
  exact plain_escapedPoint d c hc

theorem Style.Proper.plain_item (proper : style.Proper) : Plain style.item := by
  obtain ⟨n, item⟩ := proper.item
  rw [item]
  exact plain_cons.mpr ⟨by decide, plain_replicate n⟩

theorem Style.Proper.plain_member (proper : style.Proper) : Plain style.member := by
  obtain ⟨n, member⟩ := proper.member
  rw [member]
  exact plain_cons.mpr ⟨by decide, plain_replicate n⟩

mutual

/-- **A written document is plain text.** -/
theorem plain_write (proper : style.Proper) : ∀ j : Json, Plain (write style j)
  | .null => (by decide : Plain "null")
  | .bool true => (by decide : Plain "true")
  | .bool false => (by decide : Plain "false")
  | .int n => Decimal.plain_ofInt n
  | .real x => plain_writeReal x
  | .string s => plain_writeString s
  | .array items =>
    Plain.append (Plain.append (by decide) (plain_writeItems proper items)) (by decide)
  | .object members =>
    Plain.append (Plain.append (by decide) (plain_writeMembers proper members)) (by decide)

theorem plain_writeItems (proper : style.Proper) : ∀ js : List Json, Plain (writeItems style js)
  | [] => plain_nil
  | [j] => plain_write proper j
  | j :: next :: rest =>
    have first := (plain_write proper j).append proper.plain_item
    first.append (plain_writeItems proper (next :: rest))

theorem plain_writeMembers (proper : style.Proper) :
    ∀ es : List (Text × Json), Plain (writeMembers style es)
  | [] => plain_nil
  | [(k, j)] => ((plain_writeString k).append proper.plain_member).append (plain_write proper j)
  | (k, j) :: next :: rest =>
    ((((plain_writeString k).append proper.plain_member).append (plain_write proper j)).append
      proper.plain_item).append (plain_writeMembers proper (next :: rest))

end

end Json
end OpenBroker
