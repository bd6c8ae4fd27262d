import OpenBroker.Charset.Chinese
import OpenBroker.Charset.Japanese
import OpenBroker.Charset.Korean

/-!
# Sets that are switched

Text of many characters passes where only ASCII passes if the bytes of ASCII stand for
other characters for a while.  ISO 2022 has escape sequences that say which characters
come next: a sequence designates one of several sets to one of three slots, and the
first slot is in use unless a shift puts the second one into its place.  The third slot
is used for single characters.  HZ switches between ASCII and Chinese.

Sequences that have nothing to do with sets pass as they are.
-/
namespace OpenBroker
namespace Charset

/-! ## ISO 2022 -/

namespace Switched

/-- **Set** that can be designated. -/
inductive GraphicSet
  | ascii
  | roman
  | katakana
  | latin1
  | greek
  | japanese
  | japaneseMore
  | japanese2000
  | japanese2004
  | japaneseSecond
  | chinese
  | korean
  deriving DecidableEq, Repr

/-- **Variety** of ISO 2022: the sets of one byte and of two bytes by their final bytes,
whether there are shifts, whether there is a third slot, and whether a sequence may tell
the revision of a set. -/
structure Variety where
  narrow : List (UInt8 × GraphicSet)
  wide : List (UInt8 × GraphicSet)
  hasShifts : Bool
  hasThird : Bool
  hasRevisions : Bool

/-- **State**: what the slots hold, whether the second one is in use, and whether a foreign
sequence is passing. -/
structure Slots where
  first : GraphicSet
  second : GraphicSet
  third : GraphicSet
  isShifted : Bool
  isPassing : Bool

/-- In the beginning all slots hold ASCII. -/
def Slots.initial : Slots := ⟨.ascii, .ascii, .ascii, false, false⟩

/-- A byte that ends a sequence. -/
def isFinal (b : UInt8) : Bool := 0x40 ≤ b && b ≤ 0x5A

/-- **Length** of a sequence. -/
inductive Length
  | cutOff
  | tooLong
  | bytes (n : Nat)
  deriving DecidableEq, Repr

/-- The length of a sequence that goes on with some bytes behind `n` others.  The bytes
that tell a revision are skipped with the one behind them. -/
def lengthFrom (hasRevisions : Bool) (n : Nat) (bytes : List UInt8) : Length :=
  if 16 ≤ n then .tooLong
  else
    match bytes with
    | [] => .cutOff
    | b :: rest =>
      if isFinal b then .bytes (n + 1)
      else if hasRevisions && b == 0x26 && rest.head? == some 0x40 then
        lengthFrom hasRevisions (n + 3) (rest.drop 2)
      else lengthFrom hasRevisions (n + 1) rest
termination_by bytes.length
decreasing_by
  · simp only [List.length_drop, List.length_cons]; omega
  · simp

/-- A set of one byte by its final byte; ASCII is always there. -/
def Variety.narrow? (v : Variety) (b : UInt8) : Option GraphicSet :=
  if b = 0x42 then some .ascii else v.narrow.lookup b

/-- What the bytes of a sequence behind its first one do to the slots. -/
def Variety.designate? (v : Variety) (s : Slots) : List UInt8 → Option Slots
  | [0x24, b] => (v.wide.lookup b).map fun g => { s with first := g }
  | [0x28, b] => (v.narrow? b).map fun g => { s with first := g }
  | [0x29, b] => (v.narrow? b).map fun g => { s with second := g }
  | [0x2E, b] => if v.hasThird then (v.narrow? b).map fun g => { s with third := g } else none
  | [0x24, 0x28, b] => (v.wide.lookup b).map fun g => { s with first := g }
  | [0x24, 0x29, b] => (v.wide.lookup b).map fun g => { s with second := g }
  | [_, _, 0x1B, 0x24, 0x42] =>
    if v.hasRevisions then (v.wide.lookup 0x42).map fun g => { s with first := g } else none
  | _ => none

/-- The characters of the Greek set from `0xA0` on. -/
def greekTable : String := 
  "AYFNoXWFNjWXeXYWWcXXWWFMoFMhXY1DaXX1C,1DaXX1C,1Da1C,1DaXoWWcX1g"

/-- What a byte is as a single character of the third slot. -/
def ofThird (g : GraphicSet) (b : UInt8) : Option CodePoint :=
  let n := b.toNat
  match g with
  | .ascii => if n < 0x80 then some (CodePoint.ofNat n) else none
  | .latin1 => if n < 0x80 then some (CodePoint.ofNat (n + 0x80)) else none
  | .greek =>
    if 0x80 ≤ n then some (CodePoint.ofNat (n - 0x80))
    else if n < 0x20 then some (CodePoint.ofNat (n + 0x80))
    else ((tablePoints greekTable)[n - 0x20]?).join
  | _ => none

/-- What a byte is in a set of one byte. -/
def narrow (g : GraphicSet) (b : UInt8) : Found :=
  match g with
  | .roman => .point (Japanese.roman b) 0
  | .katakana => .point? (Japanese.katakana? (b + 0x80)) 0
  | _ => .bad 0

/-- The text of two bytes in a set of two bytes. -/
def wide? (g : GraphicSet) (row column : Nat) : Option Text :=
  match g with
  | .japanese => (jis208.at? row column).map ([·])
  | .japaneseMore => (jis212.at? row column).map ([·])
  | .japanese2000 =>
    if Japanese.laterPlaces.contains (row, column) then none
    else Japanese.first213? row column
  | .japanese2004 => Japanese.first213? row column
  | .japaneseSecond => (jis213Second.at? row column).map ([·])
  | .chinese => (gb2312.at? row column).map ([·])
  | .korean => (ks1001.at? row column).map ([·])
  | _ => none

/-- The sets of one byte. -/
def GraphicSet.isNarrow : GraphicSet → Bool
  | ascii | roman | katakana | latin1 | greek => true
  | _ => false

/-- Reads a character of a set that is in use. -/
def readIn (g : GraphicSet) (b : UInt8) (rest : List UInt8) : Found :=
  if g = .ascii then .point b.toNat 0
  else if g.isNarrow then narrow g b
  else
    match rest with
    | [] => .cutOff rest
    | c :: _ =>
      match wide? g b.toNat c.toNat with
      | some t => .text t 1
      | none => .bad 1

/-- The bytes that are second in a sequence about sets. -/
def isAboutSets (b : UInt8) : Bool := b == 0x28 || b == 0x29 || b == 0x24 || b == 0x2E || b == 0x26

/-- Reads what an escape begins. -/
def Variety.readEscape (v : Variety) (s : Slots) (rest : List UInt8) : Found × Slots :=
  match rest with
  | [] => (.cutOff rest, s)
  | c :: more =>
    if isAboutSets c then
      match lengthFrom v.hasRevisions 1 rest with
      | .cutOff => (.cutOff rest, s)
      | .tooLong => (.bad 0, s)
      | .bytes n =>
        match v.designate? s (rest.take (n - 1)) with
        | some s => (.text [] (n - 1), s)
        | none => (.bad (n - 1), s)
    else if v.hasThird && c == 0x4E then
      match more with
      | [] => (.cutOff rest, s)
      | d :: _ =>
        match ofThird s.third d with
        | some point => (.text [point] 2, s)
        | none => (.bad 2, s)
    else (.point 0x1B 0, { s with isPassing := true })

/-- Reads a byte in a state. -/
def Variety.read (v : Variety) (s : Slots) (b : UInt8) (rest : List UInt8) : Found × Slots :=
  if s.isPassing then (.point b.toNat 0, { s with isPassing := !isFinal b })
  else if b = 0x1B then v.readEscape s rest
  else if v.hasShifts && b == 0x0E then (.text [] 0, { s with isShifted := true })
  else if v.hasShifts && b == 0x0F then (.text [] 0, { s with isShifted := false })
  else if b = 0x0A then (.point b.toNat 0, { s with isShifted := false })
  else if b < 0x20 then (.point b.toNat 0, s)
  else if 0x80 ≤ b then (.bad 0, s)
  else (readIn (if s.isShifted then s.second else s.first) b rest, s)

/-- **A variety of ISO 2022.** -/
def Variety.decode (v : Variety) : List UInt8 → Pieces := scan v.read (fun _ => []) .initial

/-- A variety for Japanese. -/
def japanese (narrow wide : List (UInt8 × GraphicSet)) : Variety :=
  ⟨narrow, wide, false, false, true⟩

/-- The Roman alphabet of Japan. -/
def romanOnly : List (UInt8 × GraphicSet) := [(0x4A, .roman)]

/-- The first plane of Japanese, in its two editions. -/
def firstPlane : List (UInt8 × GraphicSet) := [(0x42, .japanese), (0x40, .japanese)]

/-- The plane of JIS X 0212 besides. -/
def twoPlanes : List (UInt8 × GraphicSet) := (0x44, .japaneseMore) :: firstPlane

/-- **ISO-2022-JP.** -/
def jp : Variety := japanese romanOnly firstPlane

/-- **ISO-2022-JP-1.** -/
def jp1 : Variety := japanese romanOnly twoPlanes

/-- **ISO-2022-JP-2**, which has sets of other scripts. -/
def jp2 : Variety :=
  ⟨(0x41, .latin1) :: (0x46, .greek) :: romanOnly,
    (0x43, .korean) :: (0x41, .chinese) :: twoPlanes, false, true, true⟩

/-- **ISO-2022-JP-3.** -/
def jp3 : Variety :=
  japanese [] [(0x42, .japanese), (0x4F, .japanese2000), (0x50, .japaneseSecond)]

/-- **ISO-2022-JP-2004.** -/
def jp2004 : Variety :=
  japanese [] [(0x42, .japanese), (0x51, .japanese2004), (0x50, .japaneseSecond)]

/-- **ISO-2022-JP with katakana.** -/
def jpExtended : Variety := japanese ((0x49, .katakana) :: romanOnly) twoPlanes

/-- **ISO-2022-KR.** -/
def kr : Variety := ⟨[], [(0x43, .korean)], true, false, false⟩

end Switched

/-! ## HZ -/

namespace Hz

/-- Reads a byte; the state tells whether it is one of Chinese.  A tilde begins what
switches. -/
def read (isChinese : Bool) (b : UInt8) (rest : List UInt8) : Found × Bool :=
  if b = 0x7E then
    match rest, isChinese with
    | [], _ => (.cutOff rest, isChinese)
    | 0x7E :: _, false => (.point 0x7E 1, false)
    | 0x7B :: _, false => (.text [] 1, true)
    | 0x0A :: _, false => (.text [] 1, false)
    | 0x7D :: _, true => (.text [] 1, false)
    | _, _ => (.bad 0, isChinese)
  else if 0x80 ≤ b then (.bad 0, isChinese)
  else if isChinese then
    (pair (fun b c => .point? (gb2312.at? b.toNat c.toNat) 1) b rest, isChinese)
  else (.point b.toNat 0, isChinese)

/-- **HZ.** -/
def decode : List UInt8 → Pieces := scan read (fun _ => []) false

end Hz
end Charset
end OpenBroker
