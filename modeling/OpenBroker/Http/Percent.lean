import OpenBroker.Text.Utf8

/-!
# Percent-encoding

An address is written in a part of ASCII.  Every other character is written as the
bytes of its UTF-8, each as a percent sign and two upper-case hexadecimal digits;
which characters stand for themselves depends on the part of the address.

Decoding works on bytes: a percent sign that two hexadecimal digits follow stands
for a byte, any other one for itself.
-/
namespace OpenBroker
namespace Percent

/-- The upper-case hexadecimal digit of a number below sixteen. -/
def digit (n : Nat) : CodePoint := CodePoint.asciiUpper (CodePoint.hexDigit n)

/-- A byte, written with a percent sign. -/
def encodeByte (b : UInt8) : Text := ['%', digit (b.toNat / 16), digit (b.toNat % 16)]

/-- A code point, written as its bytes. -/
def encodePoint (c : CodePoint) : Text := (Utf8.encodePoint c).flatMap encodeByte

/-- **Encode** a text, leaving the characters of a class. -/
def encode (keeps : CodePoint → Bool) (t : Text) : Text :=
  t.flatMap fun c => if keeps c then [c] else encodePoint c

/-- The number of a hexadecimal digit given as a byte. -/
def hexValue? (b : UInt8) : Option Nat := CodePoint.hexValue? (CodePoint.ofNat b.toNat)

/-- **Decode** a sequence of bytes. -/
def decodeBytes : List UInt8 → List UInt8
  | a :: b :: c :: rest =>
    if a = 0x25 then
      match hexValue? b, hexValue? c with
      | some m, some n => UInt8.ofNat (16 * m + n) :: decodeBytes rest
      | _, _ => a :: decodeBytes (b :: c :: rest)
    else a :: decodeBytes (b :: c :: rest)
  | bs => bs

/-- The text that an encoded text stands for; bytes that are no UTF-8 are
replaced. -/
def decode (t : Text) : Text := Utf8.decodeLossy (decodeBytes (Utf8.encode t))

/-- A letter or digit of ASCII, or one of the four marks that are never encoded. -/
def isUnreserved (c : CodePoint) : Bool :=
  CodePoint.isAsciiLetter c || CodePoint.isAsciiDigit c
    || c == '-' || c == '.' || c == '_' || c == '~'

/-- **Path character.**  A character that stands for itself in a path. -/
def isPathCharacter (c : CodePoint) : Bool :=
  let marks : Text := "!$&'()*+,/:;=@"
  isUnreserved c || marks.contains c

/-- **Query character.**  A character that stands for itself in a query; what is written
with a percent sign already stays. -/
def isQueryCharacter (c : CodePoint) : Bool := isPathCharacter c || c == '%' || c == '?'

/-- **Fragment character.**  A character that stands for itself in a fragment. -/
def isFragmentCharacter (c : CodePoint) : Bool := isQueryCharacter c || c == '#'

end Percent
end OpenBroker
