import OpenBroker.Packed
import OpenBroker.Text.Utf8

/-!
# Decoding

Bytes become text by a character set.  A set cuts a byte sequence into **pieces**: a piece
is a code point, or it is malformed and stands for some bytes that are no character.

A set reads from the left.  What it finds at the beginning of a sequence may depend on
what came before, so a reader has a state.  The first byte is always used up, so
reading comes to an end whatever a reader does.
-/
namespace OpenBroker
namespace Charset

/-- **Pieces**: code points, and nothing in the place of what is malformed. -/
abbrev Pieces := List (Option CodePoint)

namespace Pieces

/-- The pieces of a text. -/
def ofText (t : Text) : Pieces := t.map some

/-- **Lenient reading**: what is malformed becomes the replacement character. -/
def lenient (p : Pieces) : Text := p.map (·.getD Utf8.replacement)

/-- **Strict reading**: a text, if nothing is malformed. -/
def strict? (p : Pieces) : Option Text := p.mapM id

@[simp]
theorem lenient_ofText (t : Text) : (ofText t).lenient = t := by
  simp [ofText, lenient, Function.comp_def]

end Pieces

/-- **What is found** at the beginning of a byte sequence: some pieces, and how many bytes
they take behind the first one. -/
structure Found where
  pieces : Pieces
  more : Nat

namespace Found

/-- A text that takes some bytes behind the first one. -/
def text (t : Text) (more : Nat) : Found := ⟨.ofText t, more⟩

/-- A single code point. -/
def point (n more : Nat) : Found := text [CodePoint.ofNat n] more

/-- A malformed piece. -/
def bad (more : Nat) : Found := ⟨[none], more⟩

/-- A text that takes some bytes behind the first one; without it the first byte alone is
malformed. -/
def text? (t? : Option Text) (more : Nat) : Found :=
  match t? with
  | some t => text t more
  | none => bad 0

/-- Like `text?`, for a single code point. -/
def point? (c? : Option CodePoint) (more : Nat) : Found := text? (c?.map ([·])) more

/-- A piece that the end of the bytes cuts off: all that is left is malformed. -/
def cutOff (rest : List UInt8) : Found := bad rest.length

end Found

variable {σ : Type}

/-- **Pieces of bytes**, as a reader with a state finds them, and the pieces that an end
in some state makes. -/
def scan (read : σ → UInt8 → List UInt8 → Found × σ) (finish : σ → Pieces) :
    σ → List UInt8 → Pieces
  | s, [] => finish s
  | s, b :: rest =>
    let (found, s) := read s b rest
    found.pieces ++ scan read finish s (rest.drop found.more)
termination_by _ bytes => bytes.length
decreasing_by simp only [List.length_drop, List.length_cons]; omega

/-- **Pieces of bytes**, as a reader without a state finds them. -/
def decodeBy (read : UInt8 → List UInt8 → Found) (bytes : List UInt8) : Pieces :=
  scan (fun _ b rest => (read b rest, ())) (fun _ => []) () bytes

/-- Reads a byte of ASCII, and all else otherwise. -/
def asciiOr (read : UInt8 → List UInt8 → Found) (b : UInt8) (rest : List UInt8) : Found :=
  if b < 0x80 then .point b.toNat 0 else read b rest

/-- Reads two bytes. -/
def pair (read : UInt8 → UInt8 → Found) (b : UInt8) : List UInt8 → Found
  | [] => .cutOff []
  | c :: _ => read b c

/-- **Pieces of bytes** in a set of ASCII and characters of two bytes. -/
def decodePairs (read : UInt8 → UInt8 → Found) : List UInt8 → Pieces :=
  decodeBy (asciiOr (pair read))

end Charset

/-! ## Tables of characters

The characters of a standard come in the order of their places.  Many follow one another,
many places are empty, and the others lie where they lie.  So a table is a sequence of
numbers: zero with a number stands for one more empty places than that, one with a number
for one more characters than that which follow the one before, and any other number for
a character at a distance from the one before.
-/

namespace Charset

/-- The characters of a table behind one with the number `last`. -/
def pointsFrom (last : Nat) : List Nat → List (Option CodePoint)
  | 0 :: n :: rest => List.replicate (n + 1) none ++ pointsFrom last rest
  | 1 :: n :: rest =>
    ((List.range (n + 1)).map fun i => some (CodePoint.ofNat (last + 1 + i)))
      ++ pointsFrom (last + 1 + n) rest
  | n :: rest =>
    let next := Packed.displaced last (n - 2)
    some (CodePoint.ofNat next) :: pointsFrom next rest
  | [] => []

/-- **The characters** of a packed table. -/
def tablePoints (table : String) : List (Option CodePoint) :=
  pointsFrom 0 (Packed.numbers table)

/-- **Grid** of characters: rows of the same width, the rows and the columns numbered
from some number each.  Places beyond the last character are empty. -/
structure Grid where
  firstRow : Nat
  firstColumn : Nat
  width : Nat
  points : Array (Option CodePoint)

namespace Grid

/-- The grid of a packed table. -/
def ofPacked (firstRow firstColumn width : Nat) (table : String) : Grid :=
  ⟨firstRow, firstColumn, width, (tablePoints table).toArray⟩

/-- **The character** in a row and a column. -/
def at? (g : Grid) (row column : Nat) : Option CodePoint :=
  if g.firstRow ≤ row ∧ g.firstColumn ≤ column ∧ column - g.firstColumn < g.width then
    (g.points[(row - g.firstRow) * g.width + (column - g.firstColumn)]?).join
  else none

/-- The text of a place in a list of those that hold more than one character. -/
def several? (places : List ((Nat × Nat) × List Nat)) (row column : Nat) : Option Text :=
  (places.lookup (row, column)).map (·.map CodePoint.ofNat)

end Grid
end Charset
end OpenBroker
