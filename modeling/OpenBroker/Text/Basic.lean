/-!
# Texts are sequences of code points

Identifiers, messages and documents are texts.  A text is a list of code
points, and not of scalar values: a JSON document may spell one half of a
surrogate pair by itself (`"\ud800"`), such a string is a value like any other,
and it is written back the way it came.  Everything the library does with a text
is therefore a function on lists, and equality of texts is decidable for free.

Literals are written as ordinary strings and characters; two coercions read
them as texts and code points.
-/
namespace OpenBroker

/-- **Code point.**  A number below `0x110000`; surrogates are included. -/
abbrev CodePoint := Fin 0x110000

namespace CodePoint

theorem toNat_lt_of_char (c : Char) : c.toNat < 0x110000 := by
  have h := c.valid
  simp only [Char.toNat, UInt32.isValidChar, Nat.isValidChar] at *
  omega

/-- The code point of a character. -/
def ofChar (c : Char) : CodePoint := ⟨c.toNat, toNat_lt_of_char c⟩

instance : Coe Char CodePoint := ⟨ofChar⟩

/-- The code point of a number, taken below `0x110000`. -/
def ofNat (n : Nat) : CodePoint := Fin.ofNat 0x110000 n

theorem val_ofNat {n : Nat} (h : n < 0x110000) : (ofNat n).val = n := Nat.mod_eq_of_lt h

theorem ofNat_val (c : CodePoint) : ofNat c.val = c := Fin.ofNat_val_eq_self c

/-- The first half of a surrogate pair. -/
def isHighSurrogate (c : CodePoint) : Bool := 0xD800 ≤ c.val && c.val < 0xDC00

/-- The second half of a surrogate pair. -/
def isLowSurrogate (c : CodePoint) : Bool := 0xDC00 ≤ c.val && c.val < 0xE000

/-- The code point of the two halves of a surrogate pair. -/
def joined (high low : CodePoint) : CodePoint :=
  ofNat (0x10000 + (high.val - 0xD800) * 0x400 + (low.val - 0xDC00))

/-- **Scalar value.**  A code point that is no half of a surrogate pair. -/
def isScalar (c : CodePoint) : Bool := !(isHighSurrogate c || isLowSurrogate c)

theorem isScalar_iff {c : CodePoint} : c.isScalar = true ↔ c.val < 0xD800 ∨ 0xE000 ≤ c.val := by
  simp only [isScalar, isHighSurrogate, isLowSurrogate, Bool.not_eq_true', Bool.or_eq_false_iff,
    Bool.and_eq_false_iff, decide_eq_false_iff_not]
  omega

/-- The character of a scalar value; a lone surrogate has none and becomes the
replacement character. -/
def toChar (c : CodePoint) : Char :=
  if isScalar c then Char.ofNat c.val else '\ufffd'

/-- A decimal digit of ASCII. -/
def isAsciiDigit (c : CodePoint) : Bool := 0x30 ≤ c.val && c.val ≤ 0x39

theorem isAsciiDigit_iff {c : CodePoint} :
    c.isAsciiDigit = true ↔ 0x30 ≤ c.val ∧ c.val ≤ 0x39 := by
  simp only [isAsciiDigit, Bool.and_eq_true, decide_eq_true_eq]

/-- A digit is no character that is no digit. -/
theorem ne_of_isAsciiDigit {c d : CodePoint} (digit : c.isAsciiDigit = true)
    (other : d.isAsciiDigit = false) : c ≠ d := by
  rintro rfl
  rw [digit] at other
  cases other

/-- A letter of ASCII. -/
def isAsciiLetter (c : CodePoint) : Bool :=
  (0x41 ≤ c.val && c.val ≤ 0x5A) || (0x61 ≤ c.val && c.val ≤ 0x7A)

/-- The lower-case letter of an upper-case letter of ASCII; any other code
point is its own. -/
def asciiLower (c : CodePoint) : CodePoint :=
  if 0x41 ≤ c.val && c.val ≤ 0x5A then ofNat (c.val + 0x20) else c

/-- The upper-case letter of a lower-case letter of ASCII; any other code
point is its own. -/
def asciiUpper (c : CodePoint) : CodePoint :=
  if 0x61 ≤ c.val && c.val ≤ 0x7A then ofNat (c.val - 0x20) else c

/-- The number of a hexadecimal digit, in either case. -/
def hexValue? (c : CodePoint) : Option Nat :=
  if 0x30 ≤ c.val && c.val ≤ 0x39 then some (c.val - 0x30)
  else if 0x61 ≤ c.val && c.val ≤ 0x66 then some (c.val - 0x61 + 10)
  else if 0x41 ≤ c.val && c.val ≤ 0x46 then some (c.val - 0x41 + 10)
  else none

/-- The lower-case hexadecimal digit of a number below sixteen. -/
def hexDigit (n : Nat) : CodePoint :=
  if n < 10 then ofNat (0x30 + n) else ofNat (0x61 + (n - 10))

end CodePoint

/-- **Text.**  A finite sequence of code points. -/
abbrev Text := List CodePoint

namespace Text

/-- The text of a string. -/
def ofString (s : String) : Text := s.toList.map CodePoint.ofChar

instance : Coe String Text := ⟨ofString⟩

/-- The string of a text, lone surrogates replaced. -/
def toString (t : Text) : String := String.ofList (t.map CodePoint.toChar)

/-- The parts of a text between the occurrences of a separator; a text without
the separator is its own only part. -/
def split (separator : CodePoint) : Text → List Text
  | [] => [[]]
  | c :: rest =>
    if c = separator then [] :: split separator rest
    else (split separator rest).modifyHead (c :: ·)

/-- The text up to the first separator, and what follows the separator if there
is one. -/
def cut (separator : CodePoint) : Text → Text × Option Text
  | [] => ([], none)
  | c :: rest =>
    if c = separator then ([], some rest)
    else
      let (before, after) := cut separator rest
      (c :: before, after)

/-- The parts joined, the separator between each two. -/
def join (separator : Text) : List Text → Text
  | [] => []
  | [part] => part
  | part :: next :: rest => part ++ separator ++ join separator (next :: rest)

/-- The text without the longest end of it that lies in a class. -/
def dropEndWhile (p : CodePoint → Bool) (t : Text) : Text :=
  (t.reverse.dropWhile p).reverse

/-- Letters of ASCII in lower case, all else kept. -/
def asciiLower (t : Text) : Text := t.map CodePoint.asciiLower

/-- Whether the first text is a beginning of the second. -/
def startsWith (beginning t : Text) : Bool := beginning.isPrefixOf t

/-- A number of copies of a code point. -/
def replicate (count : Nat) (c : CodePoint) : Text := List.replicate count c

end Text
end OpenBroker
