import OpenBroker.Charset.Basic

/-!
# Text with escapes

Programs write characters by escapes: a backslash with a letter, or with digits that
number the character.  All other bytes are Latin-1.  An escape that breaks off is
malformed as far as it goes.

There is a plain form, in which only characters with a number have escapes.
-/
namespace OpenBroker
namespace Charset
namespace Escaped

/-- The value of a hexadecimal digit. -/
def hexValue? (b : UInt8) : Option Nat := (CodePoint.ofNat b.toNat).hexValue?

/-- The bytes of a number of hexadecimal digits, at most so many. -/
def hexDigits (count : Nat) (bytes : List UInt8) : List Nat :=
  ((bytes.take count).takeWhile fun b => (hexValue? b).isSome).filterMap hexValue?

/-- Reads the digits of a number behind an escape's letter, which come after the backslash
and the letter in `rest`. -/
def readNumber (count : Nat) (rest : List UInt8) : Found :=
  let digits := hexDigits count (rest.drop 1)
  let n := digits.foldl (fun n d => n * 16 + d) 0
  if digits.length = count ∧ n < 0x110000 then .point n (1 + count)
  else .bad (1 + digits.length)

/-- How many digits the number behind a letter has. -/
def digitCount? (b : UInt8) : Option Nat :=
  if b = 0x75 then some 4 else if b = 0x55 then some 8 else none

/-- The characters that stand for others behind a backslash. -/
def short : List (UInt8 × Nat) :=
  [(0x5C, 0x5C), (0x27, 0x27), (0x22, 0x22), (0x62, 0x08), (0x66, 0x0C), (0x74, 0x09),
    (0x6E, 0x0A), (0x72, 0x0D), (0x76, 0x0B), (0x61, 0x07)]

/-- Whether a byte is an octal digit. -/
def isOctal (b : UInt8) : Bool := 0x30 ≤ b && b ≤ 0x37

/-- Reads a number of up to three octal digits. -/
def readOctal (rest : List UInt8) : Found :=
  let digits := (rest.take 3).takeWhile isOctal
  .point (digits.foldl (fun n b => n * 8 + (b.toNat - 0x30)) 0) digits.length

/-- Reads the name of a character in braces.  No character has a name here. -/
def readName (rest : List UInt8) : Found :=
  match rest.drop 1 with
  | 0x7B :: name =>
    let before := name.takeWhile (· != 0x7D)
    if before.length = name.length then .cutOff rest
    else .bad (if before.isEmpty then 2 else 3 + before.length)
  | _ => .bad 1

/-- Reads an escape; an unknown one stands for itself. -/
def readEscape (rest : List UInt8) : Found :=
  match rest with
  | [] => .bad 0
  | c :: _ =>
    match short.lookup c, digitCount? c with
    | some n, _ => .point n 1
    | none, some count => readNumber count rest
    | none, none =>
      if c = 0x0A then .text [] 1
      else if isOctal c then readOctal rest
      else if c = 0x78 then readNumber 2 rest
      else if c = 0x4E then readName rest
      else .text [('\\' : CodePoint), CodePoint.ofNat c.toNat] 1

/-- **Text with escapes.** -/
def decode : List UInt8 → Pieces :=
  decodeBy fun b rest => if b = 0x5C then readEscape rest else .point b.toNat 0

/-- Reads an escape of the plain form. -/
def readPlain (rest : List UInt8) : Found :=
  match rest with
  | [] => .point 0x5C 0
  | c :: _ =>
    match digitCount? c with
    | some count => readNumber count rest
    | none => .text [('\\' : CodePoint), CodePoint.ofNat c.toNat] 1

/-- **Text with escapes of the plain form.** -/
def decodePlain : List UInt8 → Pieces :=
  decodeBy fun b rest => if b = 0x5C then readPlain rest else .point b.toNat 0

end Escaped
end Charset
end OpenBroker
