import OpenBroker.Number.Binary64
import OpenBroker.Text.Basic

/-!
# Numbers in decimal

Whole numbers are written with all of their digits, and doubles with as few digits as tell them
apart.
-/
namespace OpenBroker

/-! ## Whole numbers

The digits of a number, most significant first and without leading zeros, and
the number of a row of digits.
-/

namespace Decimal

/-- The digit of a number below ten. -/
def digit (n : Nat) : CodePoint := CodePoint.ofNat (0x30 + n)

/-- The digits of `n` in front of a text. -/
def digitsOnto (n : Nat) (tail : Text) : Text :=
  if n < 10 then digit n :: tail else digitsOnto (n / 10) (digit (n % 10) :: tail)
termination_by n
decreasing_by omega

/-- The digits of a natural number. -/
def ofNat (n : Nat) : Text := digitsOnto n []

/-- The digits of an integer, behind a minus sign if it is negative. -/
def ofInt : Int → Text
  | .ofNat n => ofNat n
  | .negSucc n => '-' :: ofNat (n + 1)

/-- The number of a row of ASCII digits, continuing one already read. -/
def toNatFrom (start : Nat) (ds : Text) : Nat :=
  ds.foldl (fun n d => 10 * n + (d.val - 0x30)) start

/-- The number of a row of ASCII digits. -/
def toNat (ds : Text) : Nat := toNatFrom 0 ds

end Decimal

/-! ## The shortest decimal of a double

A double is written with as few significant digits as identify it: of all
decimals that are nearer to it than to any other double, those with the fewest
digits are taken, and of these the one nearest to the double itself.

Every real number between the midpoints to the two neighbouring doubles rounds
to the double; the midpoints themselves do when its significand is even.  On the
grid of the multiples of a power of ten the candidates are the two grid points
around the value: if any point of the grid lies between the midpoints, one of
these two does.  So the search walks from the coarsest grid to finer ones and
stops at the first with a candidate inside.  All of it is arithmetic on natural
numbers.
-/

namespace Binary64

/-- **Range of a double.**  Numerators over one common denominator: of the
value, of the two ends of the interval that rounds to it, and whether the ends
belong to the interval. -/
structure Span where
  low : Nat
  value : Nat
  high : Nat
  den : Nat
  closed : Bool

/-- The interval of `m · 2 ^ q`.  Quarters of the last place are the unit; below a
power of two the neighbour is only half as far. -/
def span (m : Nat) (q : Int) : Span :=
  let up := Nat.pow 2 (q - 2).toNat
  let den := Nat.pow 2 (2 - q).toNat
  let below := if m = Nat.pow 2 52 ∧ -1074 < q then 1 else 2
  ⟨(4 * m - below) * up, 4 * m * up, (4 * m + 2) * up, den, m % 2 = 0⟩

/-- Whether `c · 10 ^ k` lies in the interval. -/
def Span.contains (s : Span) (c : Nat) (k : Int) : Bool :=
  let x := c * Nat.pow 10 k.toNat * s.den
  let unit := Nat.pow 10 (-k).toNat
  if s.closed then s.low * unit ≤ x && x ≤ s.high * unit
  else s.low * unit < x && x < s.high * unit

/-- The least `k` with the value below `10 ^ k`, among the four exponents from an
estimate on. -/
def Span.magnitude (s : Span) : Int :=
  let l : Int := (s.value.log2 : Int) - s.den.log2
  let estimate : Int := (l * 30103).fdiv 100000 - 1
  let below (k : Int) : Bool := s.value * Nat.pow 10 (-k).toNat < s.den * Nat.pow 10 k.toNat
  match (List.range 4).find? fun (i : Nat) => below (estimate + i) with
  | some i => estimate + i
  | none => estimate + 4

/-- The candidate on the grid of the multiples of `10 ^ k`, if one lies in the
interval: the nearer of the two around the value, of two equally near ones the
even one. -/
def Span.candidate? (s : Span) (k : Int) : Option Nat :=
  let num := s.value * Nat.pow 10 (-k).toNat
  let den := s.den * Nat.pow 10 k.toNat
  let c := num / den
  let twice := 2 * (num % den)
  let up := den < twice || (den == twice && c % 2 == 1)
  match s.contains c k, s.contains (c + 1) k with
  | true, true => some (if up then c + 1 else c)
  | true, false => some c
  | false, true => some (c + 1)
  | false, false => none

/-- The digits without the zeros at their end, and the exponent that makes up
for them. -/
def stripZeros (c : Nat) (k : Int) : Nat × Int :=
  if h : c ≠ 0 ∧ c % 10 = 0 then stripZeros (c / 10) (k + 1) else (c, k)
termination_by c
decreasing_by omega

/-- **Shortest decimal** `c · 10 ^ k` of `m · 2 ^ q`, for a positive `m`. -/
def shortest (m : Nat) (q : Int) : Nat × Int :=
  let s := span m q
  let top := s.magnitude
  let found := (List.range 17).findSome? fun (i : Nat) =>
    (s.candidate? (top - 1 - i)).map fun c => (c, top - 1 - (i : Int))
  match found with
  | some (c, k) => stripZeros c k
  | none => (m, 0)

/-- **Layout of a real number.**  A number is written positionally while the
decimal point stands from `firstPoint` to `lastPoint` places behind the
beginning of its digits, and with an exponent otherwise; an exponent has at
least `exponentDigits` digits. -/
structure Layout where
  firstPoint : Int
  lastPoint : Int
  exponentDigits : Nat

/-- Real numbers are positional from `0.0001` to below `10 ^ 16`, and an exponent
has two digits or more. -/
def layout : Layout := ⟨-3, 16, 2⟩

/-- The digits `ds` with the decimal point `point` places behind their
beginning. -/
def Layout.write (l : Layout) (ds : Text) (point : Int) : Text :=
  if l.firstPoint ≤ point ∧ point ≤ l.lastPoint then
    if point ≤ 0 then "0." ++ Text.replicate (-point).toNat '0' ++ ds
    else if ds.length ≤ point then
      ds ++ Text.replicate (point.toNat - ds.length) '0' ++ ".0"
    else ds.take point.toNat ++ "." ++ ds.drop point.toNat
  else
    let exponent := point - 1
    let digits := Decimal.ofNat exponent.natAbs
    let sign : Text := if exponent < 0 then "-" else "+"
    let fraction : Text := if ds.length ≤ 1 then [] else "." ++ ds.drop 1
    ds.take 1 ++ fraction ++ "e" ++ sign
      ++ Text.replicate (l.exponentDigits - digits.length) '0' ++ digits

/-- The text of a finite number without its sign. -/
def writeFinite (m : Nat) (q : Int) : Text :=
  if m = 0 then "0.0"
  else
    let (c, k) := shortest m q
    let ds := Decimal.ofNat c
    layout.write ds (ds.length + k)

/-- **Text of a double**, with the given words for the values that are no finite
numbers. -/
def write (infinity nan : Text) (x : Binary64) : Text :=
  match x.meaning with
  | .nan => nan
  | .infinite negative => if negative then "-" ++ infinity else infinity
  | .finite negative m q => if negative then "-" ++ writeFinite m q else writeFinite m q

/-- The text of a double in messages. -/
def display (x : Binary64) : Text := x.write "inf" "nan"

end Binary64

end OpenBroker
