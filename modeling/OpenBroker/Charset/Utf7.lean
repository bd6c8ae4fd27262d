import OpenBroker.Charset.Basic

/-!
# UTF-7

Text that has to pass where only ASCII passes has other characters in runs of base 64:
a plus sign begins a run, its digits hold units of UTF-16, six bits each, and the first
byte that is no digit ends it.  A hyphen at the end of a run is used up, and a plus sign
with a hyphen behind it is a plus sign.

The bits that are left at the end of a run are zero and too few for a digit more.
-/
namespace OpenBroker
namespace Charset
namespace Utf7

/-- The value of a digit. -/
def digit? (b : UInt8) : Option Nat :=
  if 0x41 ≤ b ∧ b ≤ 0x5A then some (b.toNat - 0x41)
  else if 0x61 ≤ b ∧ b ≤ 0x7A then some (b.toNat - 0x61 + 26)
  else if 0x30 ≤ b ∧ b ≤ 0x39 then some (b.toNat - 0x30 + 52)
  else if b = 0x2B then some 62
  else if b = 0x2F then some 63
  else none

/-- **Run** that is not at its end: how many bits are left of its digits, the number that
they are, and the first half of a pair that waits for the second one. -/
structure Run where
  count : Nat
  bits : Nat
  half? : Option CodePoint
  deriving DecidableEq, Repr

/-- A run without digits. -/
def Run.empty : Run := ⟨0, 0, none⟩

/-- Takes a unit into the text: a first half waits, and one that waited either meets its
second half or stands by itself. -/
def Run.take (r : Run) (unit : CodePoint) : Pieces × Run :=
  let alone (before : Text) : Pieces × Run :=
    if unit.isHighSurrogate then (.ofText before, { r with half? := some unit })
    else (.ofText (before ++ [unit]), { r with half? := none })
  match r.half? with
  | none => alone []
  | some half =>
    if unit.isLowSurrogate then (.ofText [.joined half unit], { r with half? := none })
    else alone [half]

/-- Takes a digit: once there are bits for a unit, they make one. -/
def Run.digit (r : Run) (v : Nat) : Pieces × Run :=
  let bits := r.bits * 64 + v
  let count := r.count + 6
  if count < 16 then ([], { r with count := count, bits := bits })
  else
    let left := count - 16
    let cut := Nat.pow 2 left
    Run.take { r with count := left, bits := bits % cut } (CodePoint.ofNat (bits / cut))

/-- Whether the bits that are left may be left. -/
def Run.isComplete (r : Run) : Bool := r.count < 6 && r.bits == 0

/-- Reads outside of runs. -/
def readDirect (b : UInt8) (rest : List UInt8) : Found × Option Run :=
  if b = 0x2B then
    match rest with
    | c :: _ =>
      if c = 0x2D then (.point 0x2B 1, none)
      else if (digit? c).isSome then (⟨[], 0⟩, some .empty)
      else (.bad 1, none)
    | [] => (⟨[], 0⟩, some .empty)
  else if b < 0x80 then (.point b.toNat 0, none)
  else (.bad 0, none)

/-- Reads the first byte behind a run.  A half that waits stands by itself before a
character of ASCII and is dropped otherwise. -/
def leave (r : Run) (b : UInt8) (rest : List UInt8) : Found × Option Run :=
  if !r.isComplete then (.bad 0, none)
  else
    let half : Text := if b < 0x80 ∧ b ≠ 0x2B then r.half?.toList else []
    if b = 0x2D then (.text half 0, none)
    else
      let (found, run?) := readDirect b rest
      (⟨.ofText half ++ found.pieces, found.more⟩, run?)

/-- Reads a byte in a run, if there is one. -/
def read (run? : Option Run) (b : UInt8) (rest : List UInt8) : Found × Option Run :=
  match run?, digit? b with
  | some run, some v =>
    let (pieces, run) := run.digit v
    (⟨pieces, 0⟩, some run)
  | some run, none => leave run b rest
  | none, _ => readDirect b rest

/-- What the end of the bytes makes of a run. -/
def finish : Option Run → Pieces
  | some run => if run.isComplete && run.half?.isNone then [] else [none]
  | none => []

/-- **UTF-7.** -/
def decode : List UInt8 → Pieces := scan read finish none

end Utf7
end Charset
end OpenBroker
