/-!
# Binary64 numbers

A number with a fraction is a double: it is kept as its 64 bits, so two numbers
are equal as values exactly when they are the same double (zero has two signs).
A finite one stands for the exact value `m · 2 ^ q`, and every statement about
it is a statement about the integers `m` and `q`; no operation here rounds,
except the one that says so.

`ofRatio` is that one: the double nearest to a ratio of natural numbers, the one
with the even significand where two are equally near.
-/
namespace OpenBroker

/-- **Double.**  Sign, exponent and fraction in 64 bits. -/
structure Binary64 where
  bits : UInt64
  deriving DecidableEq, Repr, Inhabited

namespace Binary64

/-- What a double stands for: nothing, an infinity, or `m · 2 ^ q` with a
sign. -/
inductive Meaning
  | nan
  | infinite (negative : Bool)
  | finite (negative : Bool) (m : Nat) (q : Int)
  deriving DecidableEq, Repr

/-- The sign bit. -/
def isNegative (x : Binary64) : Bool := x.bits.toNat / Nat.pow 2 63 == 1

/-- The bits below the sign. -/
def magnitude (x : Binary64) : Nat := x.bits.toNat % Nat.pow 2 63

/-- The value of a double. -/
def meaning (x : Binary64) : Meaning :=
  let exponent : Nat := x.magnitude / Nat.pow 2 52
  let fraction := x.magnitude % Nat.pow 2 52
  if exponent = 0x7FF then
    if fraction = 0 then .infinite x.isNegative else .nan
  else if exponent = 0 then .finite x.isNegative fraction (-1074)
  else .finite x.isNegative (Nat.pow 2 52 + fraction) ((exponent : Int) - 1075)

/-- The double with the given sign and the given bits below it. -/
def ofMagnitude (negative : Bool) (magnitude : Nat) : Binary64 :=
  ⟨UInt64.ofNat (if negative then Nat.pow 2 63 + magnitude else magnitude)⟩

/-- The bits below the sign of an infinity. -/
def infinityMagnitude : Nat := 0x7FF * Nat.pow 2 52

/-- An infinity. -/
def infinity (negative : Bool) : Binary64 := ofMagnitude negative infinityMagnitude

/-- The value that is no number. -/
def nan : Binary64 := ofMagnitude false (infinityMagnitude + Nat.pow 2 51)

/-- `n · 2 ^ k` as a numerator. -/
def scaleUp (n : Nat) (k : Int) : Nat := n * Nat.pow 2 k.toNat

/-- **Nearest double** to `num / den`, with a sign.  The exponent is the one that
leaves 53 bits before the point, or the least one there is; the quotient is
rounded to nearest, ties to even, and a carry out of the significand moves into
the exponent by itself, because the bits are consecutive. -/
def ofRatio (negative : Bool) (num den : Nat) : Binary64 :=
  if num = 0 ∨ den = 0 then ofMagnitude negative 0
  else
    let l : Int := (num.log2 : Int) - den.log2
    let reaches : Bool := scaleUp den l ≤ scaleUp num (-l)
    let e : Int := max (-1074) (if reaches then l - 52 else l - 53)
    let n := scaleUp num (-e)
    let d := scaleUp den e
    let quotient := n / d
    let twice := 2 * (n % d)
    let rounded :=
      if d < twice ∨ (d = twice ∧ quotient % 2 = 1) then quotient + 1 else quotient
    let magnitude := (e + 1074).toNat * Nat.pow 2 52 + rounded
    ofMagnitude negative (min magnitude infinityMagnitude)

/-- The number of decimal digits of a natural number, at most one too many. -/
def roughDigits (n : Nat) : Nat := n.log2 * 1233 / 4096 + 1

/-- **Nearest double** to `significand · 10 ^ exponent`.  Beyond `10 ^ 400` every
number is infinite and below `10 ^ -400` every number is zero, so no power
larger than the text of the number itself is computed. -/
def ofDecimal (negative : Bool) (significand : Nat) (exponent : Int) : Binary64 :=
  if significand = 0 then ofMagnitude negative 0
  else
    let size : Int := roughDigits significand + exponent
    if 400 < size then infinity negative
    else if size < -400 then ofMagnitude negative 0
    else
      ofRatio negative (significand * Nat.pow 10 exponent.toNat) (Nat.pow 10 (-exponent).toNat)

/-- **Comparison with an integer**, exactly. -/
def equalsInt (x : Binary64) (n : Int) : Bool :=
  match x.meaning with
  | .finite negative m q =>
    let value : Int := if negative then -(m : Int) else m
    value * (Nat.pow 2 q.toNat : Nat) == n * (Nat.pow 2 (-q).toNat : Nat)
  | _ => false

/-- The number is zero, of either sign. -/
def isZero (x : Binary64) : Bool := x.magnitude == 0

end Binary64
end OpenBroker
