/-!
# Tables of numbers

The tables of standards are long.  They are written as texts with five bits of a number
to a character, the upper ones first.  The alphabet has 64 characters: the first half of
it stands for bits that are followed by more bits of the same number, the second half for
the last bits of a number.  All other characters are skipped, so a table can be broken
into lines.
-/
namespace OpenBroker
namespace Packed

/-- The place of a character in the alphabet: digits, capital and small letters, the
point and the comma. -/
def place? (c : Char) : Option Nat :=
  let n := c.toNat
  if 0x30 ≤ n && n ≤ 0x39 then some (n - 0x30)
  else if 0x41 ≤ n && n ≤ 0x5A then some (n - 0x41 + 10)
  else if 0x61 ≤ n && n ≤ 0x7A then some (n - 0x61 + 36)
  else if c = '.' then some 62
  else if c = ',' then some 63
  else none

/-- **What was read** of a table: whole numbers, and the bits of one that is not whole
yet. -/
structure Progress where
  whole : Array Nat
  bits : Nat

/-- Reads one more character. -/
def Progress.step (p : Progress) (c : Char) : Progress :=
  match place? c with
  | none => p
  | some v =>
    if v < 32 then { p with bits := 32 * p.bits + v }
    else ⟨p.whole.push (32 * p.bits + (v - 32)), 0⟩

/-- **The numbers** of a table. -/
def numbers (table : String) : List Nat :=
  (table.toList.foldl Progress.step ⟨#[], 0⟩).whole.toList

/-- Numbers in ascending order, by the gaps between them, the first one counted from
another number. -/
def ascendingFrom (start : Nat) : List Nat → List Nat
  | [] => []
  | gap :: rest => (start + gap) :: ascendingFrom (start + gap) rest

/-- **Numbers in ascending order**, by the gaps between them. -/
def ascending (gaps : List Nat) : List Nat := ascendingFrom 0 gaps

/-- A number that is written with its distance from another one: even distances go up,
odd ones go down. -/
def displaced (n distance : Nat) : Nat :=
  if distance % 2 = 0 then n + distance / 2 else n - (distance + 1) / 2

/-- Numbers by the distances between them. -/
def wanderingFrom (start : Nat) : List Nat → List Nat
  | [] => []
  | distance :: rest =>
    let n := displaced start distance
    n :: wanderingFrom n rest

end Packed
end OpenBroker
