import OpenBroker.Number.Binary64
import OpenBroker.Number.Decimal
import OpenBroker.Text.Class

/-!
# Numbers in configuration values

An operator may write a number with blanks around it, with the digits of any
script and with single underscores between digits.  `integer` reads whole
numbers, `real?` decimal fractions, with or without an exponent, and the words
for infinity and for no number.

A whole number may have at most `digitLimit` digits.  The digits are counted
before anything is said about what follows them, so an over-long number is
reported as such even if it is followed by junk; a misplaced underscore among the
digits is found first.  An integer with more digits is not written either.
-/
namespace OpenBroker
namespace Literal

/-- The most digits a whole number may have. -/
def digitLimit : Nat := 4300

/-- **An integer is too long** to be written: it has more digits than are read. -/
def IsTooLong (n : Int) : Prop := digitLimit < (Decimal.ofNat n.natAbs).length

instance (n : Int) : Decidable (IsTooLong n) := inferInstanceAs (Decidable (_ < _))

/-- The words for an integer that is too long to be written. -/
def unwritableMessage : Text :=
  "Exceeds the limit (" ++ Decimal.ofNat digitLimit ++ " digits) for integer string conversion; "
    ++ "use sys.set_int_max_str_digits() to increase the limit"

/-- Why a text is no whole number. -/
inductive IntegerFault
  | malformed
  | tooLong (digits : Nat)
  deriving DecidableEq, Repr

/-- The words for an over-long number. -/
def tooLongMessage (digits : Nat) : Text :=
  "Exceeds the limit (" ++ Decimal.ofNat digitLimit
    ++ " digits) for integer string conversion: value has " ++ Decimal.ofNat digits
    ++ " digits; use sys.set_int_max_str_digits() to increase the limit"

/-- The text without the blanks that may stand around a number. -/
def trim (t : Text) : Text :=
  Text.dropEndWhile Text.isNumberBlank (t.dropWhile Text.isNumberBlank)

/-- Digits of any script as ASCII digits, all else kept. -/
def plainDigits (t : Text) : Text :=
  t.map fun c => match Text.digit? c with
    | some d => Decimal.digit d
    | none => c

/-- The sign in front of a number, and the rest. -/
def sign : Text → Bool × Text
  | [] => (false, [])
  | c :: rest => if c = '-' then (true, rest) else if c = '+' then (false, rest) else (false, c :: rest)

/-- **Row of digits.**  The digits at the beginning of a text, single underscores
between them dropped, and the rest; nothing if an underscore stands at the
beginning or the end of the row, or beside another. -/
def digitRow? : (afterDigit : Bool) → Text → Option (Text × Text)
  | _, [] => some ([], [])
  | afterDigit, c :: rest =>
    if CodePoint.isAsciiDigit c then
      (digitRow? true rest).map fun (ds, rest) => (c :: ds, rest)
    else if c = '_' then
      match rest with
      | d :: _ =>
        if afterDigit && CodePoint.isAsciiDigit d then digitRow? false rest else none
      | [] => none
    else some ([], c :: rest)

/-- **Whole number.** -/
def integer (t : Text) : Except IntegerFault Int :=
  let (negative, body) := sign (plainDigits (trim t))
  match digitRow? false body with
  | none => .error .malformed
  | some (ds, rest) =>
    if digitLimit < ds.length then .error (.tooLong ds.length)
    else if ds.isEmpty || !rest.isEmpty then .error .malformed
    else .ok (if negative then -(Decimal.toNat ds : Int) else Decimal.toNat ds)

/-- The exponent part at the end of a number: nothing at all, or a letter, an
optional sign and digits up to the end. -/
def exponent? : Text → Option Int
  | [] => some 0
  | c :: rest =>
    if CodePoint.asciiLower c = 'e' then
      let (negative, body) := sign rest
      match digitRow? false body with
      | some (d :: ds, []) =>
        let n : Int := Decimal.toNat (d :: ds)
        some (if negative then -n else n)
      | _ => none
    else none

/-- **Real number**, read as the nearest double. -/
def real? (t : Text) : Option Binary64 :=
  let (negative, body) := sign (plainDigits (trim t))
  let word := Text.asciiLower body
  if word = "inf" ∨ word = "infinity" then some (Binary64.infinity negative)
  else if word = "nan" then some Binary64.nan
  else do
    let (whole, rest) ← digitRow? false body
    let (fraction, rest) ← match rest with
      | c :: rest' => if c = '.' then digitRow? false rest' else some ([], c :: rest')
      | [] => some ([], [])
    if whole.isEmpty && fraction.isEmpty then none
    else do
      let e ← exponent? rest
      some (Binary64.ofDecimal negative (Decimal.toNat (whole ++ fraction)) (e - fraction.length))

end Literal
end OpenBroker
