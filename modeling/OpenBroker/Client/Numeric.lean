import OpenBroker.Text.Basic

/-!
# Numeric hosts

A host can be named by its number.  A number of the fourth version is written as four
groups of decimal digits with points between them, one of the sixth as eight groups of
hexadecimal digits with colons between them; a double colon stands for groups of zeros,
and the last two groups may be written like a number of the fourth version.

How exact the decimal groups are is up to those who read them.
-/
namespace OpenBroker
namespace Numeric

/-- A decimal group by its length alone. -/
def isShort (t : Text) : Bool :=
  0 < t.length && t.length ≤ 3 && t.all CodePoint.isAsciiDigit

/-- A decimal group that is the number of a byte, without zeros in front. -/
def isByte (t : Text) : Bool :=
  isShort t && (t.length == 1 || t.head? != some ('0' : CodePoint))
    && t.foldl (fun n c => 10 * n + (c.val - 0x30)) 0 < 0x100

/-- **A number of the fourth version**, with groups of a kind. -/
def isFour (isGroup : Text → Bool) (t : Text) : Bool :=
  let groups := Text.split '.' t
  groups.length == 4 && groups.all isGroup

/-- A hexadecimal group: one to four digits. -/
def isHexGroup (t : Text) : Bool :=
  0 < t.length && t.length ≤ 4 && t.all fun c => c.hexValue?.isSome

/-- How many groups the colon-separated parts stand for; the last part may be a number of
the fourth version, which counts for two. -/
def groups? (isGroup : Text → Bool) (fourAllowed : Bool) (parts : List Text) : Option Nat :=
  match parts.reverse with
  | [] => some 0
  | last :: before =>
    if !before.all isHexGroup then none
    else if isHexGroup last then some parts.length
    else if fourAllowed && isFour isGroup last then some (parts.length + 1)
    else none

/-- The parts of a text between colons; an empty text has none. -/
def colonParts (t : Text) : List Text := if t.isEmpty then [] else Text.split ':' t

/-- The two sides of the first double colon, if there is one. -/
def cutDoubleColon : Text → Option (Text × Text)
  | a :: b :: rest =>
    if a = ':' && b = ':' then some ([], rest)
    else (cutDoubleColon (b :: rest)).map fun (l, r) => (a :: l, r)
  | _ => none

/-- **A number of the sixth version**: eight groups, or fewer around a double colon. -/
def isSix (isGroup : Text → Bool) (t : Text) : Bool :=
  match cutDoubleColon t with
  | none => groups? isGroup true (colonParts t) == some 8
  | some (left, right) =>
    match groups? isGroup false (colonParts left), groups? isGroup true (colonParts right) with
    | some m, some n => m + n ≤ 7
    | _, _ => false

/-- A number in decimal digits, or in hexadecimal ones behind `0x`. -/
def isNumeral (t : Text) : Bool :=
  match t with
  | zero :: x :: ds =>
    (zero == '0' && x.asciiLower == 'x' && ds.all fun c => c.hexValue?.isSome)
      || t.all CodePoint.isAsciiDigit
  | _ => !t.isEmpty && t.all CodePoint.isAsciiDigit

/-- **A number of a host in any notation**: one to four numerals with points between
them. -/
def isLoose (t : Text) : Bool :=
  let numerals := Text.split '.' t
  numerals.length ≤ 4 && numerals.all isNumeral

end Numeric
end OpenBroker
