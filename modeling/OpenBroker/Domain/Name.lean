import OpenBroker.Domain.Mapping
import OpenBroker.Domain.Property
import OpenBroker.Text.Normal
import OpenBroker.Text.Punycode

/-!
# Names of hosts in ASCII

The name of a host consists of labels.  It is brought into ASCII for the look-up, label by
label.
-/
namespace OpenBroker

/-! ## Labels of names of hosts

The name of a host consists of labels with points between them.  A label outside ASCII is
valid if all its characters are permitted where they stand, if it is in normal form, if
it neither begins with a mark nor has hyphens where it must not, and if letters of
scripts that run to the left are not mixed with others.  A valid label has an ASCII form,
which begins with four characters that no other label begins with.
-/

namespace Domain

/-! ### Contexts -/

/-- Whether a joiner stands between characters that join. -/
def joins (before after : Text) : Bool :=
  let reaches (s : CodeSet) (t : Text) : Bool :=
    match t.dropWhile transparent.has with
    | [] => false
    | c :: _ => s.has c
  reaches joiningForward before && reaches joiningBackward after

/-- Whether the first character of a text lies in a class. -/
def beginsIn (s : CodeSet) : Text → Bool
  | [] => false
  | c :: _ => s.has c

/-- A digit of the Arabic script. -/
def isArabicDigit (c : CodePoint) : Bool := 0x660 ≤ c.val && c.val ≤ 0x669

/-- A digit of the eastern Arabic script. -/
def isEasternDigit (c : CodePoint) : Bool := 0x6F0 ≤ c.val && c.val ≤ 0x6F9

/-- Whether a character may stand between others, of which the ones before it are given
backwards. -/
def fits (before : Text) (c : CodePoint) (after : Text) : Bool :=
  if c.val = 0x200C then beginsIn viramas before || joins before after
  else if c.val = 0x200D then beginsIn viramas before
  else if c.val = 0xB7 then
    before.head? == some ('l' : CodePoint) && after.head? == some ('l' : CodePoint)
  else if c.val = 0x375 then beginsIn greek after
  else if c.val = 0x5F3 || c.val = 0x5F4 then beginsIn hebrew before
  else if c.val = 0x30FB then
    (before ++ after).any fun d => d.val != 0x30FB && japanese.has d
  else if isArabicDigit c then !(before ++ after).any isEasternDigit
  else if isEasternDigit c then !(before ++ after).any isArabicDigit
  else true

/-- Whether all characters of a text are permitted where they stand, behind others that
are given backwards. -/
def allFit (before : Text) : Text → Bool
  | [] => true
  | c :: after => permitted.has c && fits before c after && allFit (c :: before) after

/-! ### Directions -/

/-- Whether a direction makes a label one that runs to the left. -/
def Direction.isLeftward : Direction → Bool
  | .right | .arabic | .arabicNumber => true
  | _ => false

/-- Whether a character of the direction may end a label of its kind. -/
def Direction.endsLabel (leftward : Bool) : Direction → Bool
  | .left => !leftward
  | .right | .arabic | .arabicNumber => leftward
  | .number => true
  | _ => false

/-- The rules for directions. -/
def isOrdered (t : Text) : Bool :=
  let ds := t.map direction
  if !ds.any Direction.isLeftward then true
  else
    let ending := (ds.reverse.find? (· != .mark)).getD .mark
    match ds.headD .mark with
    | .left => ds.all (fun d => !d.isLeftward) && ending.endsLabel false
    | .right | .arabic =>
      ds.all (· != .left) && ending.endsLabel true
        && !(ds.contains .number && ds.contains .arabicNumber)
    | _ => false

/-! ### Forms -/

/-- Whether hyphens stand only where they may: not at the ends, and not third and
fourth. -/
def hasFineHyphens (t : Text) : Bool :=
  (t.drop 2).take 2 != "--" && t.head? != some ('-' : CodePoint)
    && t.getLast? != some ('-' : CodePoint)

/-- **Valid label.** -/
def isValid (t : Text) : Bool :=
  !t.isEmpty && Text.normal t == t && hasFineHyphens t && !beginsIn marks t && allFit [] t
    && isOrdered t

/-- The beginning of the ASCII form of a label outside ASCII. -/
def encodedMark : Text := "xn--"

/-- Whether a label in ASCII is valid, or the ASCII form of a valid one. -/
def isValidAscii (t : Text) : Bool :=
  let t := Text.asciiLower t
  if Text.startsWith encodedMark t then
    let code := t.drop 4
    !code.isEmpty && code.getLast? != some ('-' : CodePoint)
      && ((Punycode.decode? none code).map isValid).getD false
  else isValid t

/-- The greatest length of a label in ASCII. -/
def labelLimit : Nat := 63

/-- **The ASCII form** of a label, if it is valid and not too long. -/
def asciiForm? (t : Text) : Option Text :=
  let form : Option Text :=
    if t.all (·.val < 0x80) then if isValidAscii t then some t else none
    else if isValid t then some (encodedMark ++ Punycode.encode t)
    else none
  form.filter (·.length ≤ labelLimit)

end Domain

/-! ## Names of hosts

A name is brought into ASCII label by label, after its characters were mapped to plain
ones.  A point at its end is kept, but no label may be empty.
-/

namespace Domain

/-- The greatest length of a name; a point at its end does not count. -/
def nameLimit : Nat := 253

/-- More characters than any name has. -/
def sizeLimit : Nat := 1024

/-- The ASCII forms of labels, the last of which may be empty. -/
def asciiLabels? : List Text → Option (List Text)
  | [] => some []
  | [label] => if label.isEmpty then some [[]] else (asciiForm? label).map ([·])
  | label :: rest => do
    let form ← asciiForm? label
    let forms ← asciiLabels? rest
    some (form :: forms)

/-- **The ASCII form** of a name, if all its labels are valid. -/
def asciiName? (t : Text) : Option Text :=
  let plain := mapped t
  if sizeLimit < t.length || plain.isEmpty || nameLimit + 1 < plain.length then none
  else
    ((asciiLabels? (Text.split '.' plain)).map (Text.join ".")).filter fun name =>
      (Text.dropEndWhile (· = '.') name).length ≤ nameLimit

end Domain
end OpenBroker
