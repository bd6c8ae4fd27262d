import OpenBroker.Charset.KoreanGrid

/-!
# Sets of Korean

A syllable of Korean has an initial consonant, a vowel and perhaps a final consonant, and
Unicode numbers all syllables in this order.  Sets of Korean know the common syllables
as characters; for the other ones they have characters of their own, or spell out the
letters of a syllable in eight bytes, or have five bits for each of its letters.
-/
namespace OpenBroker
namespace Charset
namespace Korean

/-- **Syllable** of an initial consonant, a vowel and a final one, by their numbers; the
final consonant zero is none. -/
def syllable (initial vowel final : Nat) : CodePoint :=
  CodePoint.ofNat (0xAC00 + (initial * 21 + vowel) * 28 + final)

/-- The initial consonants as letters. -/
def initials : List Nat :=
  [0x3131, 0x3132, 0x3134, 0x3137, 0x3138, 0x3139, 0x3141, 0x3142, 0x3143, 0x3145, 0x3146,
    0x3147, 0x3148, 0x3149, 0x314A, 0x314B, 0x314C, 0x314D, 0x314E]

/-- The final consonants as letters, from the number one on. -/
def finals : List Nat :=
  [0x3131, 0x3132, 0x3133, 0x3134, 0x3135, 0x3136, 0x3137, 0x3139, 0x313A, 0x313B, 0x313C,
    0x313D, 0x313E, 0x313F, 0x3140, 0x3141, 0x3142, 0x3144, 0x3145, 0x3146, 0x3147, 0x3148,
    0x314A, 0x314B, 0x314C, 0x314D, 0x314E]

/-- The first of the vowels, which follow one another. -/
def firstVowel : Nat := 0x314F

/-- Two bytes of the plane of KS X 1001, both with 128 added. -/
def ks1001? (b c : UInt8) : Option CodePoint := ks1001.at? (b.toNat - 0x80) (c.toNat - 0x80)

/-- Two bytes of the set of Windows. -/
def windows? (b c : UInt8) : Option CodePoint :=
  (ks1001? b c).or (windowsKorean.at? b.toNat c.toNat)

/-- **The set of Windows.** -/
def decodeWindows : List UInt8 → Pieces := decodePairs fun b c => .point? (windows? b c) 1

/-! ## Syllables in eight bytes -/

/-- The first byte of a letter. -/
def letterRow : UInt8 := 0xA4

/-- The second byte of the filler, which stands for no letter. -/
def filler : UInt8 := 0xD4

/-- The letter of a byte behind the one for letters. -/
def letter (b : UInt8) : Nat := 0x3131 + (b.toNat - 0xA1)

/-- The syllable that is spelled by three letters. -/
def spelled? (initial vowel final : UInt8) : Option CodePoint :=
  let first? := if initial < 0xA1 then none else initials.idxOf? (letter initial)
  let last? := if final = filler then some 0
    else if final < 0xA1 then none else (finals.idxOf? (letter final)).map (· + 1)
  if 0xBF ≤ vowel ∧ vowel ≤ 0xD3 then
    match first?, last? with
    | some first, some last => some (syllable first (vowel.toNat - 0xBF) last)
    | _, _ => none
  else none

/-- Reads a character outside ASCII: a syllable in eight bytes has a filler for its first
letter. -/
def readExtended (b : UInt8) (rest : List UInt8) : Found :=
  match rest with
  | [] => .cutOff rest
  | c :: more =>
    if b = letterRow ∧ c = filler then
      match more with
      | r :: initial :: s :: vowel :: t :: final :: _ =>
        if r = letterRow ∧ s = letterRow ∧ t = letterRow then
          .point? (spelled? initial vowel final) 7
        else .bad 0
      | _ => .cutOff rest
    else .point? (ks1001? b c) 1

/-- **The extended way** to write KS X 1001. -/
def decodeExtended : List UInt8 → Pieces := decodeBy (asciiOr readExtended)

/-! ## Five bits for a letter -/

/-- **Part** of a syllable in five bits: a letter by its number, or none. -/
inductive Part
  | filler
  | letter (n : Nat)
  deriving DecidableEq, Repr

/-- The initial consonant of five bits. -/
def initialPart? (n : Nat) : Option Part :=
  if n = 1 then some .filler
  else if 2 ≤ n ∧ n ≤ 20 then some (.letter (n - 2))
  else none

/-- The vowel of five bits.  Two numbers in eight are left free. -/
def vowelPart? (n : Nat) : Option Part :=
  if n = 2 then some .filler
  else if 3 ≤ n ∧ 2 ≤ n % 8 ∧ n ≤ 29 then some (.letter (n / 8 * 6 + n % 8 - 3))
  else none

/-- The final consonant of five bits: none is the filler as well as the number zero. -/
def finalPart? (n : Nat) : Option Nat :=
  if 1 ≤ n ∧ n ≤ 17 then some (n - 1)
  else if 19 ≤ n ∧ n ≤ 29 then some (n - 2)
  else none

/-- The character of three parts: a syllable, a letter by itself, or a blank. -/
def combined? : Part → Part → Nat → Option CodePoint
  | .letter initial, .letter vowel, final => some (syllable initial vowel final)
  | .letter initial, .filler, 0 => (initials[initial]?).map CodePoint.ofNat
  | .filler, .letter vowel, 0 => some (CodePoint.ofNat (firstVowel + vowel))
  | .filler, .filler, 0 => some (CodePoint.ofNat 0x3000)
  | .filler, .filler, final + 1 => (finals[final]?).map CodePoint.ofNat
  | _, _, _ => none

/-- The character of two bytes that hold three parts behind their first bit. -/
def ofParts? (b c : UInt8) : Option CodePoint :=
  let n := b.toNat * 256 + c.toNat
  match initialPart? (n / 1024 % 32), vowelPart? (n / 32 % 32), finalPart? (n % 32) with
  | some initial, some vowel, some final => combined? initial vowel final
  | _, _, _ => none

/-- The character of two bytes that fold two rows of KS X 1001 into one. -/
def folded? (b c : UInt8) : Option CodePoint :=
  if b < 0xD9 ∨ b = 0xDF ∨ 0xF9 < b ∨ c < 0x31 ∨ (0x80 ≤ c ∧ c < 0x91) ∨ c &&& 0x7F = 0x7F
      ∨ (b = 0xDA ∧ 0xA1 ≤ c ∧ c ≤ 0xD3) then none
  else
    let row := if b < 0xE0 then 2 * (b.toNat - 0xD9) else 2 * b.toNat - 0x197
    let column := if c < 0x91 then c.toNat - 0x31 else c.toNat - 0x43
    ks1001.at? (row + column / 94 + 0x21) (column % 94 + 0x21)

/-- **The combining set**: syllables by their letters, and KS X 1001 for the rest. -/
def decodeCombining : List UInt8 → Pieces :=
  decodePairs fun b c => .point? (if b < 0xD8 then ofParts? b c else folded? b c) 1

end Korean
end Charset
end OpenBroker
