import OpenBroker.Packed
import OpenBroker.Text.Basic

/-!
# Classes of characters

What a character is good for depends on the class it belongs to: it is a blank, a digit of some
script, a letter or a number.  A small class is spelled out.  A large one is a set of code points,
which is given by its runs.
-/
namespace OpenBroker

/-! ## Sets of code points

The properties of code points come in runs: a property holds from one point on, ceases
at another, and so on.  A set of code points is therefore given by the points at which
membership changes, in ascending order, beginning with the first member.  A code point
is a member exactly when an odd number of changes lie at or before it.
-/

/-- **Set of code points**, by the points at which membership changes. -/
structure CodeSet where
  changes : List Nat
  deriving DecidableEq, Repr

namespace CodeSet

/-- Whether an odd number of changes lie at or before a number; the changes
ascend, so the count stops at the first one beyond it. -/
def oddChanges (n : Nat) : List Nat → Bool
  | [] => false
  | change :: rest => if n < change then false else !oddChanges n rest

/-- **Membership** of a number. -/
def hasNat (s : CodeSet) (n : Nat) : Bool := oddChanges n s.changes

/-- **Membership** of a code point. -/
def has (s : CodeSet) (c : CodePoint) : Bool := s.hasNat c.val

/-- The set whose changes are as far apart as a table of numbers says. -/
def ofPacked (table : String) : CodeSet := ⟨Packed.ascending (Packed.numbers table)⟩

/-- The set with some changes, and behind the last of them as many as are in a table, which says
how far apart they are. -/
def extended (changes : List Nat) (table : String) : CodeSet :=
  ⟨changes ++ Packed.ascendingFrom (changes.getLastD 0) (Packed.numbers table)⟩

end CodeSet

/-! ## Blanks at the ends of a text

The blanks of a configuration value are those of Unicode: the characters with
the property `White_Space`, and the four separators `0x1C` to `0x1F` besides.
Numbers are read with a smaller set, in which those four are no blanks.
-/

namespace Text

/-- **Blank.**  A character of `White_Space`, or one of the four information
separators. -/
def isBlank (c : CodePoint) : Bool :=
  (0x09 ≤ c.val && c.val ≤ 0x0D) || (0x1C ≤ c.val && c.val ≤ 0x20)
    || c.val == 0x85 || c.val == 0xA0 || c.val == 0x1680
    || (0x2000 ≤ c.val && c.val ≤ 0x200A)
    || c.val == 0x2028 || c.val == 0x2029 || c.val == 0x202F
    || c.val == 0x205F || c.val == 0x3000

/-- A blank around a number: the information separators do not count. -/
def isNumberBlank (c : CodePoint) : Bool :=
  isBlank c && !(0x1C ≤ c.val && c.val ≤ 0x1F)

/-- The text without the blanks at its beginning. -/
def stripStart (t : Text) : Text := t.dropWhile isBlank

/-- The text without the blanks at its two ends. -/
def strip (t : Text) : Text := dropEndWhile isBlank (stripStart t)

end Text

/-! ## Decimal digits of every script

A whole number may be written with the digits of any script, mixed at will.
Each script that has decimal digits lists its ten in order from zero, so the
zeros are all there is to record.
-/

namespace Text

/-- The zeros of the scripts with decimal digits, in ascending order. -/
def zeros : List Nat := [
  0x30, 0x660, 0x6F0, 0x7C0, 0x966, 0x9E6, 0xA66, 0xAE6,
  0xB66, 0xBE6, 0xC66, 0xCE6, 0xD66, 0xDE6, 0xE50, 0xED0,
  0xF20, 0x1040, 0x1090, 0x17E0, 0x1810, 0x1946, 0x19D0, 0x1A80,
  0x1A90, 0x1B50, 0x1BB0, 0x1C40, 0x1C50, 0xA620, 0xA8D0, 0xA900,
  0xA9D0, 0xA9F0, 0xAA50, 0xABF0, 0xFF10, 0x104A0, 0x10D30, 0x11066,
  0x110F0, 0x11136, 0x111D0, 0x112F0, 0x11450, 0x114D0, 0x11650, 0x116C0,
  0x11730, 0x118E0, 0x11950, 0x11C50, 0x11D50, 0x11DA0, 0x16A60, 0x16AC0,
  0x16B50, 0x1D7CE, 0x1D7D8, 0x1D7E2, 0x1D7EC, 0x1D7F6, 0x1E140, 0x1E2F0,
  0x1E950, 0x1FBF0]

/-- **Decimal digit.**  The value of a digit of any script. -/
def digit? (c : CodePoint) : Option Nat :=
  if c.val < 0x80 then
    if CodePoint.isAsciiDigit c then some (c.val - 0x30) else none
  else
    (zeros.find? fun z => z ≤ c.val && c.val < z + 10).map (c.val - ·)

end Text

/-! ## Letters and numbers of every script

A character is alphanumeric if it is a letter or stands for a number, in whatever script
and however it is written.
-/

namespace Text

/-- The letters and the numbers.  In ASCII these are the digits and the letters. -/
def alphanumerics : CodeSet := CodeSet.extended [0x30, 0x3A, 0x41, 0x5B, 0x61, 0x7B]
  "1lXdYXXZYXZXtX,XEgaikbdXXX4XbXYYaXXcXXZXXXqX2pX4he5cX1cYXc1f2dxaa1j1hrgaYX3ZXXlYdlYXmXX
    .z2vhXk1hfYaXbsaXfXZXtvdhbuXcn1g1w1sZXoXdgagXmaeYYYsXdXXZaZXmXjYXZaiYcYXecaYYsXdXYXYXY,aXXdgYZ
    mfXZXsXdXYXbZXoXlYagfXheYYYsXdXYXbZX.YXZagXdhXXcZZXaZYXXXYZYZZZisXrjoeXZXtXmZXwZYXYYagedXXaeXZ
    XtXgXbZX,YXYagXYnfXZX1fYXmXbZXgapXcboZuXfXXYd,gn1mXYidfg1dYXXXbXuXXXgXYfXYbXXfgYa1WX,qieX1axb3
    p1hqhccaaZXZYdZajiXXgc1cXXbXY1hXAjXaYdXXXaY1fXaY1XXaYdXXXaYlX1vXaY2ZkqZmm2sYcZJiYnXwb2hZhdojpk
    okjXZl1q1ZXaXZgcgsgc2vdbY1YXXb2cg,1d1eYbh1iawch1btf1r1hgcgjX2z1lneZg1f.j1uw1aygZ1nYfd1hYZ1faXc
    XYZXb6W2W8sYcY1cYcYeXXXXXXX,Y1rXdXXZZXdZaYcajbZXd3pYYcbhcj3bXaXYgXXZbcXXXXXXaXhYabbaXX1wMs1y2k
    sJs.13i7bcaZYfXY1cXXbXY1udXmtfdXdXdXdXdXdXdXd2mXErZvfdbYba2scZX2wXab1hX2.Zag1W1mm1Wg.eXl1Wg1dl
    AW6EW2WLKj2Z1kY8jZyq1lm,Y2m1dfY3dY2WbYXXXbumXZXaXtjcg1qk1oygucZXXYX1cgtvzd1lyhcbXvX1ftZXeagctZ
    XZ1oXXZYYbYXXXuZYhdZicYcYcfdXdX1hXkc3pjgcATaita1n88aBkY3g1cdibbXXgXjXbXXXYXYX3i1XBho2WY1s1ei3q
    bX4dpgdwcwh2vZcYcYcYZ1ZiXwXpXYXlYk1Y3xi1ji1vnY7qzZ1nmxa1af.b1cg.Y1aaeXb1g4.Ygc1aa1aa1ee1qihXlX
    dXYXhXlXdXY2Z9tfsgeucX1gXf2bcYXX1iXYZXYtY,Y1cef1mpXYb1Xaw2c1uaqY1llaXZXzgft,X1W1WeXycbm1sgsYxb
    wtd2m2f1t1pj1pd1gig9c,X1gcY2k1eeshaxo1kyqti1rw.XYYXj1j1Wvdgf1algaXYXe1ZZXi1mkahhXXaqhoXv2qdXXX
    aXlXgd1lngheYYYsXdXYXbZXoXib4.1roabgbZ.1mqYXXeg5c1l1fa1a1mqXhg1c1hjXdg1sxriad5v1i3q2pieYXYeXYX
    ulXXXkg2ceY1dmXXXyXg1edXrXh1kpXo2f8dfX1bnXlzb.3mdXYX1crXfgccXYX1WkXdg9sp5zXlr1hSw3c3ln6a2Ii3Xl
    11l3UnId8DvHvd,Xgc2lXgc.o1mmaigXdXrbpLm2t3f2hbX2Yj2WYXXy5Vue16s1gf8NdaXdXYX9Z1jZnaeCi28a3hbjZf
    dg5Icq3iv4d2rX2dXYYXYYYaXiXXXdX2XXaYeXdXyXaXbXXZdXAqYvXvX,XvX,XvX,XvX,XvXeY1o1OW,FX1jgdYgaXAX.
    o1iag17cdXaXYXlX6bYf1m2adXagOt1xXZXa2i1jXl6YaXxXYXXYXXgXaXXXXcXaXXXXXXZXYXXYXXXXXXXXXXYXXYaXdX
    aXaXXXgXnbZXbXnIaj2NZg10c19NW1W41vd6.Y5KYk79n30,G.1FY4Qh"

/-- **Alphanumeric.** -/
def isAlphanumeric (c : CodePoint) : Bool := alphanumerics.has c

end Text
end OpenBroker
