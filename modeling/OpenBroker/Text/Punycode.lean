import OpenBroker.Text.Basic

/-!
# Punycode

A text of any characters is written in ASCII: its ASCII characters come first, and behind
the last hyphen stands where the others are to be inserted.  Characters are inserted in
ascending order, and each insertion is a single number, which counts the insertions that
were passed over since the one before.  A number has the digits of base 36, but how much
a digit is worth depends on how large the numbers before it were, so that small numbers
are short.
-/
namespace OpenBroker
namespace Punycode

/-- What a digit must reach, at a place behind its number's beginning, to be followed by
another one. -/
def threshold (bias place : Nat) : Nat := max 1 (min 26 (36 * (place + 1) - bias))

theorem threshold_pos (bias place : Nat) : 0 < threshold bias place := by
  unfold threshold; omega

theorem threshold_le (bias place : Nat) : threshold bias place ≤ 26 := by
  unfold threshold; omega

/-- A number divided by 35 until it is small, and 36 for each time that it took. -/
def reduce (n count : Nat) : Nat × Nat :=
  if h : 455 < n then reduce (n / 35) (count + 36) else (n, count)
termination_by n
decreasing_by omega

/-- **The bias** behind a number, when so many characters are there. -/
def adapt (n characters : Nat) (isFirst : Bool) : Nat :=
  let n := if isFirst then n / 700 else n / 2
  let (n, count) := reduce (n + n / characters) 0
  count + 36 * n / (n + 38)

/-! ## Encoding -/

/-- The character of a digit. -/
def digit (n : Nat) : CodePoint :=
  if n < 26 then CodePoint.ofNat (0x61 + n) else CodePoint.ofNat (0x30 + (n - 26))

/-- The digits of a number from a place on. -/
def digits (bias place n : Nat) : Text :=
  let t := threshold bias place
  if n < t then [digit n]
  else digit (t + (n - t) % (36 - t)) :: digits bias (place + 1) ((n - t) / (36 - t))
termination_by n
decreasing_by
  have positive := threshold_pos bias place
  have small := Nat.div_le_self (n - threshold bias place) (36 - threshold bias place)
  omega

/-- **Where encoding stands**: the numbers written, the insertions passed over since, the
bias, and the characters that are there. -/
structure Encoding where
  written : Text
  passed : Nat
  bias : Nat
  characters : Nat

/-- One character of the text, when those below `n` are there and `n` is inserted. -/
def Encoding.meet (base n : Nat) (e : Encoding) (c : CodePoint) : Encoding :=
  if c.val < n then { e with passed := e.passed + 1 }
  else if c.val = n then
    ⟨e.written ++ digits e.bias 0 e.passed, 0,
      adapt e.passed (e.characters + 1) (e.characters == base), e.characters + 1⟩
  else e

/-- Inserts all characters of a text in ascending order; those below `from` are there. -/
def encodeFrom (t : Text) (base : Nat) : (start : Nat) → List Nat → Encoding → Encoding
  | _, [], e => e
  | start, n :: rest, e =>
    let e := { e with passed := e.passed + (n - start) * (e.characters + 1) }
    let e := t.foldl (Encoding.meet base n) e
    encodeFrom t base (n + 1) rest { e with passed := e.passed + 1 }

/-- A number put among ascending ones, unless it is there. -/
def putAscending (n : Nat) : List Nat → List Nat
  | [] => [n]
  | m :: rest =>
    if n < m then n :: m :: rest
    else if n = m then m :: rest
    else m :: putAscending n rest

/-- The characters of a text outside ASCII, ascending, each once. -/
def extended (t : Text) : List Nat :=
  ((t.map (·.val)).filter (0x80 ≤ ·)).foldr putAscending []

/-- **Encode** a text. -/
def encode (t : Text) : Text :=
  let base := t.filter (·.val < 0x80)
  let e := encodeFrom t base.length 0x80 (extended t) ⟨[], 0, 72, base.length⟩
  base ++ (if base.isEmpty then [] else [('-' : CodePoint)]) ++ e.written

/-! ## Decoding -/

/-- The value of a digit. -/
def value? (c : CodePoint) : Option Nat :=
  if c.isAsciiDigit then some (c.val - 0x30 + 26)
  else if c.isAsciiLetter then some (c.asciiLower.val - 0x61)
  else none

/-- The number at the beginning of a text, and what stands behind it; `worth` is what the
next digit is worth, and `n` what the ones before it are. -/
def number? (bias : Nat) : (place worth n : Nat) → Text → Option (Nat × Text)
  | _, _, _, [] => none
  | place, worth, n, c :: rest =>
    match value? c with
    | none => none
    | some v =>
      let t := threshold bias place
      let n := n + v * worth
      if v < t then some (n, rest) else number? bias (place + 1) (worth * (36 - t)) n rest

/-- **Where decoding stands**: the text so far, the character to insert next, the place
for it, and the bias. -/
structure Decoding where
  text : Text
  character : Nat
  place : Nat
  bias : Nat
  isFirst : Bool

/-- Inserts the next character, when so many insertions are passed over.  A number that is
no character stands for `substitute?`, if that is given. -/
def Decoding.insert? (substitute? : Option Nat) (d : Decoding) (passed : Nat) :
    Option Decoding :=
  let size := d.text.length + 1
  let place := d.place + passed
  let n := d.character + place / size
  let place := place % size
  (if n < 0x110000 then some n else substitute?).map fun n =>
    ⟨d.text.take place ++ CodePoint.ofNat n :: d.text.drop place, n, place + 1,
      adapt passed size d.isFirst, false⟩

/-- Inserts characters as the numbers of a text say.  The first argument bounds how
many.  A text that cannot be read ends the insertions if there is a substitute, and is
nothing otherwise. -/
def decodeFrom (substitute? : Option Nat) : Nat → Decoding → Text → Option Text
  | 0, d, _ => some d.text
  | bound + 1, d, t =>
    if t.isEmpty then some d.text
    else
      match number? d.bias 0 1 0 t with
      | none => if substitute?.isSome then some d.text else none
      | some (passed, rest) =>
        (d.insert? substitute? passed).bind fun d => decodeFrom substitute? bound d rest

/-- What stands before the last hyphen of a text, and what behind it. -/
def cutBase (t : Text) : Text × Text :=
  match Text.cut '-' t.reverse with
  | (after, some before) => (before.reverse, after.reverse)
  | (_, none) => ([], t)

/-- **Decode** an ASCII text, with a substitute for what is no character, or strictly. -/
def decode? (substitute? : Option Nat) (t : Text) : Option Text :=
  let (base, numbers) := cutBase t
  decodeFrom substitute? numbers.length ⟨base, 0x80, 0, 72, true⟩ numbers

end Punycode
end OpenBroker
