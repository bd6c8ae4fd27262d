import OpenBroker.Charset.ChineseGrid

/-!
# Sets of Chinese

All sets of Chinese write a character in two bytes, the first of which is not one of
ASCII.  GB 18030 has characters of four bytes besides, the second and the fourth of
which are digits: they number what the shorter ones leave of Unicode.
-/
namespace OpenBroker
namespace Charset
namespace Chinese

/-- Two bytes of the plane of GB 2312, both with 128 added. -/
def gb2312? (b c : UInt8) : Option CodePoint := gb2312.at? (b.toNat - 0x80) (c.toNat - 0x80)

/-- Two bytes of GBK. -/
def gbk? (b c : UInt8) : Option CodePoint := (gbkMore.at? b.toNat c.toNat).or (gb2312? b c)

/-- Two bytes of GB 18030. -/
def gb18030? (b c : UInt8) : Option CodePoint :=
  (gb18030More.at? b.toNat c.toNat).or (gbk? b c)

/-- Two bytes of Big5. -/
def big5? (b c : UInt8) : Option CodePoint := big5.at? b.toNat c.toNat

/-- Two bytes of the Big5 of Windows. -/
def windowsBig5? (b c : UInt8) : Option CodePoint :=
  (windowsBig5.at? b.toNat c.toNat).or (big5? b c)

/-- Whether Hong Kong gave the place of two bytes away. -/
def isTakenByHongKong (b c : UInt8) : Bool := 0xC6 ≤ b && b ≤ 0xC8 && (0xC7 ≤ b || 0xA1 ≤ c)

/-- Two bytes of the Big5 of Hong Kong. -/
def hongKong? (b c : UInt8) : Option Text :=
  let common? := if isTakenByHongKong b c then none else big5? b c
  match common?.or (hongKong.at? b.toNat c.toNat) with
  | some point => some [point]
  | none => Grid.several? hongKongPairs b.toNat c.toNat

/-- **A set of ASCII and characters of two bytes.** -/
def decodeTwo (two? : UInt8 → UInt8 → Option CodePoint) : List UInt8 → Pieces :=
  decodePairs fun b c => .point? (two? b c) 1

/-- **The Big5 of Hong Kong.** -/
def decodeHongKong : List UInt8 → Pieces := decodePairs fun b c => .text? (hongKong? b c) 1

/-! ## Four bytes -/

/-- The runs of a list of distances, behind a run that begins with a number and a
character. -/
def runsFrom (number character : Nat) : List Nat → List (Nat × Nat)
  | n :: c :: rest => (number + n, character + c) :: runsFrom (number + n) (character + c) rest
  | _ => []

/-- The runs of characters of four bytes: where each begins, and its first character. -/
def runs : List (Nat × Nat) := runsFrom 0 0 gb18030Runs

/-- The numbers that the runs have together. -/
def runsEnd : Nat := 39420

/-- The character with a number among those of the runs. -/
def numbered (n : Nat) : Nat :=
  match (runs.takeWhile (·.1 ≤ n)).getLast? with
  | some (start, first) => first + (n - start)
  | none => n

/-- The first of the first bytes for characters beyond the basic plane, counted from the
first of all. -/
def supplementary : Nat := 15

/-- How many characters have the same first byte. -/
def perFirstByte : Nat := 12600

/-- The character with a number among all of four bytes: first come those of the runs, and
much later those beyond the basic plane. -/
def ofNumber? (n : Nat) : Option Nat :=
  if n < runsEnd then some (numbered n)
  else if supplementary * perFirstByte ≤ n then
    let n := n - supplementary * perFirstByte + 0x10000
    if n < 0x110000 then some n else none
  else none

/-- The character of four bytes, the second of which is a digit. -/
def four? (b c d e : UInt8) : Option CodePoint :=
  if 0x81 ≤ b ∧ b ≤ 0xFE ∧ 0x81 ≤ d ∧ d ≤ 0xFE ∧ 0x30 ≤ e ∧ e ≤ 0x39 then
    let n := ((b.toNat - 0x81) * 10 + (c.toNat - 0x30)) * 126 + (d.toNat - 0x81)
    (ofNumber? (n * 10 + (e.toNat - 0x30))).map CodePoint.ofNat
  else none

/-- Reads a character of GB 18030 outside ASCII. -/
def readGb18030 (b : UInt8) (rest : List UInt8) : Found :=
  match rest with
  | [] => .cutOff rest
  | c :: more =>
    if 0x30 ≤ c ∧ c ≤ 0x39 then
      match more with
      | d :: e :: _ => .point? (four? b c d e) 3
      | _ => .cutOff rest
    else .point? (gb18030? b c) 1

/-- **GB 18030.** -/
def decodeGb18030 : List UInt8 → Pieces := decodeBy (asciiOr readGb18030)

end Chinese
end Charset
end OpenBroker
