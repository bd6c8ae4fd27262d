import OpenBroker.Charset.JapaneseGrid

/-!
# Sets of Japanese

Two ways to write the planes of Japanese in bytes are common.  The extended way adds 128
to the row and the column, and marks what is not on the first plane by a byte in front.
The shifted way folds two rows into one value of the first byte, and leaves the values
between for narrow katakana, which are single bytes.

The two standards that succeed JIS X 0208 differ in a few characters, which are
malformed in the older one.
-/
namespace OpenBroker
namespace Charset
namespace Japanese

/-- The narrow katakana of a byte. -/
def katakana? (b : UInt8) : Option CodePoint :=
  if 0xA1 ≤ b ∧ b ≤ 0xDF then some (CodePoint.ofNat (0xFEC0 + b.toNat)) else none

/-! ## Planes -/

/-- The text at a row and a column of the first plane by JIS X 0213. -/
def first213? (row column : Nat) : Option Text :=
  match (jis213First.at? row column).or (jis208.at? row column) with
  | some c => some [c]
  | none => Grid.several? jis213Pairs row column

/-- The places of the first plane to which JIS X 0213 gave a character only later. -/
def laterPlaces : List (Nat × Nat) :=
  [(0x2E, 0x21), (0x2F, 0x7E), (0x4F, 0x54), (0x4F, 0x7E), (0x74, 0x27), (0x7E, 0x7A),
    (0x7E, 0x7B), (0x7E, 0x7C), (0x7E, 0x7D), (0x7E, 0x7E)]

/-- A character of the second plane of JIS X 0213, which had a variant at one place. -/
def second213? (isLater : Bool) (row column : Nat) : Option CodePoint :=
  if !isLater && row == 0x7D && column == 0x3B then some (CodePoint.ofNat 0x9B1D)
  else jis213Second.at? row column

/-- What two bytes of the first plane by JIS X 0213 are. -/
def found213 (isLater : Bool) (row column : Nat) : Found :=
  if !isLater && laterPlaces.contains (row, column) then .bad 1
  else .text? (first213? row column) 1

/-! ## The extended way -/

/-- The row or the column of a byte with 128 added; small bytes have none. -/
def extended (b : UInt8) : Nat := b.toNat - 0x80

/-- Reads the extended way: two bytes of the first plane, or three of another one. -/
def readExtended (first : Nat → Nat → Found) (other? : Nat → Nat → Option CodePoint)
    (b : UInt8) (rest : List UInt8) : Found :=
  if b = 0x8E then pair (fun _ c => .point? (katakana? c) 1) b rest
  else if b = 0x8F then
    match rest with
    | c :: d :: _ => .point? (other? (extended c) (extended d)) 2
    | _ => .cutOff rest
  else pair (fun b c => first (extended b) (extended c)) b rest

/-- **The extended way**, with JIS X 0212. -/
def decodeExtended : List UInt8 → Pieces :=
  decodeBy <| asciiOr <|
    readExtended (fun row column => .point? (jis208.at? row column) 1) jis212.at?

/-- **The extended way**, with JIS X 0213, where the plane of JIS X 0212 fills the gaps of
the second one. -/
def decodeExtended213 (isLater : Bool) : List UInt8 → Pieces :=
  decodeBy <| asciiOr <|
    readExtended
      (fun row column =>
        if row = 0x22 ∧ column = 0x32 then .point 0xFF5E 1 else found213 isLater row column)
      (fun row column => (second213? isLater row column).or (jis212.at? row column))

/-! ## The shifted way -/

/-- Whether a byte is the first of two. -/
def isShiftedLead (b : UInt8) : Bool := (0x81 ≤ b && b ≤ 0x9F) || (0xE0 ≤ b && b ≤ 0xFC)

/-- The row and the column of two bytes, both counted from zero. -/
def shifted? (b c : UInt8) : Option (Nat × Nat) :=
  if c < 0x40 ∨ c = 0x7F ∨ 0xFC < c then none
  else
    let row := if b < 0xE0 then b.toNat - 0x81 else b.toNat - 0xC1
    let column := if c < 0x80 then c.toNat - 0x40 else c.toNat - 0x41
    some (2 * row + column / 94, column % 94)

/-- What a single byte is: narrow katakana, or malformed. -/
def single (b : UInt8) : Found := .point? (katakana? b) 0

/-- Reads two bytes of the first plane. -/
def shiftedPair (b c : UInt8) : Found :=
  match shifted? b c with
  | some (row, column) => .point? (jis208.at? (row + 0x21) (column + 0x21)) 1
  | none => .bad 0

/-- **The shifted way.** -/
def decodeShifted : List UInt8 → Pieces :=
  decodeBy <| asciiOr fun b rest =>
    if isShiftedLead b then pair shiftedPair b rest else single b

/-- The row of the second plane that lies at a row beyond the first one: the second plane
has characters in few rows, and these are packed. -/
def packedRow (row : Nat) : Nat :=
  if 0x67 ≤ row then row + 0x07
  else if 0x63 ≤ row ∨ row = 0x5F then row - 0x37
  else row - 0x3D

/-- Reads two bytes of the planes of JIS X 0213. -/
def shiftedPair213 (isLater : Bool) (b c : UInt8) : Found :=
  match shifted? b c with
  | none => .bad 0
  | some (row, column) =>
    let column := column + 0x21
    if row = 0 ∧ column = 0x40 then .point 0x5C 1
    else if row < 94 then found213 isLater (row + 0x21) column
    else .point? (second213? isLater (packedRow row) column) 1

/-- The character of a small byte in the Roman alphabet of Japan. -/
def roman (b : UInt8) : Nat := if b = 0x5C then 0xA5 else if b = 0x7E then 0x203E else b.toNat

/-- **The shifted way**, with JIS X 0213 and the Roman alphabet of Japan. -/
def decodeShifted213 (isLater : Bool) : List UInt8 → Pieces :=
  decodeBy fun b rest =>
    if b < 0x80 then .point (roman b) 0
    else if isShiftedLead b then pair (shiftedPair213 isLater) b rest
    else single b

/-- Reads two bytes of the set of Windows. -/
def windowsPair (b c : UInt8) : Found :=
  match windowsJapanese.at? b.toNat c.toNat with
  | some point => .text [point] 1
  | none => if b ≤ 0xEA then shiftedPair b c else .bad 0

/-- **The shifted way of Windows**, which leaves no byte without a character. -/
def decodeWindows : List UInt8 → Pieces :=
  decodeBy fun b rest =>
    if b ≤ 0x80 then .point b.toNat 0
    else if b = 0xA0 then .point 0xF8F0 0
    else if 0xFD ≤ b then .point (0xF8F1 + (b.toNat - 0xFD)) 0
    else if isShiftedLead b then pair windowsPair b rest
    else single b

end Japanese
end Charset
end OpenBroker
