import OpenBroker.Json.Basic
import OpenBroker.Number.Literal

/-!
# Reading JSON

The reader accepts the grammar of JSON, the names `NaN`, `Infinity` and
`-Infinity` besides, and nothing around the document but spaces, tabs and line
ends.  Where it refuses a text it says what it expected and where: a fault carries
the text from the faulty place on, and its position is what is missing from the
whole.

Three rules fix the place of a fault.  A string that is not closed is reported at
its opening quote; an escape that is no escape at its backslash; a `\u` without
four hexadecimal digits, or without anything behind them, at its `u`.  A comma
with nothing behind it is a missing value in an array and a missing name in an
object.

Two escapes that spell the halves of a surrogate pair, one directly after the
other, are one code point; any other half stays by itself.  Of several members
under one key the last gives the value and the first the place.

Every reader returns what it read together with the text that remains.

An integer with more digits than `Literal.digitLimit` is refused for its length,
without a position.
-/
namespace OpenBroker
namespace Json

/-- What is wrong with a text that is no JSON document. -/
inductive Fault
  | valueExpected
  | nameExpected
  | colonExpected
  | commaExpected
  | unterminatedString
  | controlCharacter
  | invalidEscape
  | invalidUnicodeEscape
  | extraData
  | byteOrderMark
  deriving DecidableEq, Repr

/-- The words for a fault. -/
def Fault.message : Fault → Text
  | .valueExpected => "Expecting value"
  | .nameExpected => "Expecting property name enclosed in double quotes"
  | .colonExpected => "Expecting ':' delimiter"
  | .commaExpected => "Expecting ',' delimiter"
  | .unterminatedString => "Unterminated string starting at"
  | .controlCharacter => "Invalid control character at"
  | .invalidEscape => "Invalid \\escape"
  | .invalidUnicodeEscape => "Invalid \\uXXXX escape"
  | .extraData => "Extra data"
  | .byteOrderMark => "Unexpected UTF-8 BOM (decode using utf-8-sig)"

/-- Why reading stopped: at a fault, with the text from there on, or at an
integer that is too long. -/
inductive Stop
  | fault (fault : Fault) (rest : Text)
  | integerTooLong (digits : Nat)

/-- A blank between tokens. -/
def isSpace (c : CodePoint) : Bool :=
  c.val == 0x20 || c.val == 0x09 || c.val == 0x0A || c.val == 0x0D

/-- The text without the blanks at its beginning. -/
def skip (s : Text) : Text := s.dropWhile isSpace

/-- The rest of a text that begins with a word. -/
def afterWord? : (word s : Text) → Option Text
  | [], s => some s
  | _ :: _, [] => none
  | w :: word, c :: s => if w = c then afterWord? word s else none

/-- The number of four hexadecimal digits. -/
def hex4? (a b c d : CodePoint) : Option Nat := do
  let a ← CodePoint.hexValue? a
  let b ← CodePoint.hexValue? b
  let c ← CodePoint.hexValue? c
  let d ← CodePoint.hexValue? d
  some (((a * 16 + b) * 16 + c) * 16 + d)

/-- The code point of a one-letter escape. -/
def escape? (c : CodePoint) : Option CodePoint :=
  if c = '"' ∨ c = '\\' ∨ c = '/' then some c
  else if c = 'b' then some (CodePoint.ofNat 0x08)
  else if c = 'f' then some (CodePoint.ofNat 0x0C)
  else if c = 'n' then some (CodePoint.ofNat 0x0A)
  else if c = 'r' then some (CodePoint.ofNat 0x0D)
  else if c = 't' then some (CodePoint.ofNat 0x09)
  else none

/-- The text with every two halves of a surrogate pair that stand side by side
made into one code point. -/
def joinHalves : Text → Text
  | [] => []
  | [c] => [c]
  | c :: d :: rest =>
    if c.isHighSurrogate && d.isLowSurrogate then CodePoint.joined c d :: joinHalves rest
    else c :: joinHalves (d :: rest)

/-- A code point read in front of the rest of a string. -/
def consPoint (c : CodePoint) :
    Except Stop (Text × Text) → Except Stop (Text × Text)
  | .ok (s, rest) => .ok (c :: s, rest)
  | .error stop => .error stop

/-- The code points of a string, each escape by itself, from behind its opening
quote on; `start` is the text from that quote on. -/
def stringPoints (start : Text) : Text → Except Stop (Text × Text)
  | [] => .error (.fault .unterminatedString start)
  | c :: s =>
    if c = '"' then .ok ([], s)
    else if c.val < 0x20 then .error (.fault .controlCharacter (c :: s))
    else if c = '\\' then
      match s with
      | [] => .error (.fault .unterminatedString start)
      | e :: s' =>
        if e = 'u' then
          match s' with
          | h₁ :: h₂ :: h₃ :: h₄ :: next :: r =>
            match hex4? h₁ h₂ h₃ h₄ with
            | some n => consPoint (CodePoint.ofNat n) (stringPoints start (next :: r))
            | none => .error (.fault .invalidUnicodeEscape (e :: s'))
          | _ => .error (.fault .invalidUnicodeEscape (e :: s'))
        else
          match escape? e with
          | some c' => consPoint c' (stringPoints start s')
          | none => .error (.fault .invalidEscape (c :: s))
    else consPoint c (stringPoints start s)

/-- **String**, from its opening quote on; the text after it is given apart. -/
def stringBody (start afterQuote : Text) : Except Stop (Text × Text) :=
  match stringPoints start afterQuote with
  | .ok (s, rest) => .ok (joinHalves s, rest)
  | .error stop => .error stop

/-- The digits at the beginning of a text, and the rest. -/
def digits (s : Text) : Text × Text :=
  (s.takeWhile CodePoint.isAsciiDigit, s.dropWhile CodePoint.isAsciiDigit)

/-- The digits of a fraction, if a point and a digit follow. -/
def fraction : Text → Text × Text
  | c :: d :: s =>
    if c = '.' ∧ CodePoint.isAsciiDigit d then digits (d :: s) else ([], c :: d :: s)
  | s => ([], s)

/-- An exponent, if a letter, an optional sign and a digit follow. -/
def exponent (s : Text) : Option Int × Text :=
  match s with
  | [] => (none, s)
  | c :: body =>
    if c = 'e' ∨ c = 'E' then
      let (negative, body) := Literal.sign body
      let (ds, rest) := digits body
      if ds.isEmpty then (none, s)
      else
        let n : Int := Decimal.toNat ds
        (some (if negative then -n else n), rest)
    else (none, s)

/-- The whole part of a number: a zero, or digits that begin with no zero. -/
def wholePart? : Text → Option (Text × Text)
  | [] => none
  | c :: s =>
    if c = '0' then some ([c], s)
    else if CodePoint.isAsciiDigit c then some (digits (c :: s))
    else none

/-- **Number.** -/
def number (s : Text) : Except Stop (Json × Text) :=
  let (negative, body) :=
    match s with
    | c :: rest => if c = '-' then (true, rest) else (false, s)
    | [] => (false, s)
  match wholePart? body with
  | none => .error (.fault .valueExpected s)
  | some (whole, afterWhole) =>
    let (fractionDigits, afterFraction) := fraction afterWhole
    let (exponent?, rest) := exponent afterFraction
    if fractionDigits.isEmpty && exponent?.isNone then
      if Literal.digitLimit < whole.length then .error (.integerTooLong whole.length)
      else
        let n : Int := Decimal.toNat whole
        .ok (.int (if negative then -n else n), rest)
    else
      .ok (.real (Binary64.ofDecimal negative (Decimal.toNat (whole ++ fractionDigits))
        (exponent?.getD 0 - fractionDigits.length)), rest)

/-- A document that is a single word, or a number. -/
def scalar (s : Text) : Except Stop (Json × Text) :=
  let words : List (Text × Json) :=
    [("null", .null), ("true", .bool true), ("false", .bool false),
      ("NaN", .real Binary64.nan), ("Infinity", .real (Binary64.infinity false)),
      ("-Infinity", .real (Binary64.infinity true))]
  match words.findSome? fun (word, v) => (afterWord? word s).map fun rest => (v, rest) with
  | some read => .ok read
  | none => number s

mutual

/-- **Document** at the beginning of a text.  The first argument bounds the number
of nested calls. -/
def value : Nat → Text → Except Stop (Json × Text)
  | 0, s => .error (.fault .valueExpected s)
  | _, [] => .error (.fault .valueExpected [])
  | fuel + 1, c :: s =>
    if c = '"' then do
      let (t, rest) ← stringBody (c :: s) s
      .ok (.string t, rest)
    else if c = '\x7b' then
      match skip s with
      | d :: rest =>
        if d = '\x7d' then .ok (.object [], rest)
        else do
          let (members, rest) ← members fuel (d :: rest)
          .ok (.object (Keyed.ofPairs members), rest)
      | [] => .error (.fault .nameExpected [])
    else if c = '[' then
      match skip s with
      | d :: rest =>
        if d = ']' then .ok (.array [], rest)
        else do
          let (items, rest) ← items fuel (d :: rest)
          .ok (.array items, rest)
      | [] => .error (.fault .valueExpected [])
    else scalar (c :: s)

/-- The items of an array from the first one on, and its closing bracket. -/
def items : Nat → Text → Except Stop (List Json × Text)
  | 0, s => .error (.fault .valueExpected s)
  | fuel + 1, s => do
    let (v, rest) ← value fuel s
    match skip rest with
    | [] => .error (.fault .commaExpected [])
    | c :: rest =>
      if c = ']' then .ok ([v], rest)
      else if c = ',' then do
        let (vs, rest) ← items fuel (skip rest)
        .ok (v :: vs, rest)
      else .error (.fault .commaExpected (c :: rest))

/-- The members of an object from the first one on, and its closing brace. -/
def members : Nat → Text → Except Stop (List (Text × Json) × Text)
  | 0, s => .error (.fault .nameExpected s)
  | _, [] => .error (.fault .nameExpected [])
  | fuel + 1, q :: s =>
    if q = '"' then do
      let (key, rest) ← stringBody (q :: s) s
      match skip rest with
      | [] => .error (.fault .colonExpected [])
      | c :: rest =>
        if c = ':' then do
          let (v, rest) ← value fuel (skip rest)
          match skip rest with
          | [] => .error (.fault .commaExpected [])
          | c :: rest =>
            if c = '\x7d' then .ok ([(key, v)], rest)
            else if c = ',' then do
              let (es, rest) ← members fuel (skip rest)
              .ok ((key, v) :: es, rest)
            else .error (.fault .commaExpected (c :: rest))
        else .error (.fault .colonExpected (c :: rest))
    else .error (.fault .nameExpected (q :: s))

end

/-- **Reading error.**  A fault with its line and column, counted from one, and
its index, counted from zero; or an integer with too many digits. -/
inductive ReadError
  | malformed (fault : Fault) (line column index : Nat)
  | integerTooLong (digits : Nat)
  deriving DecidableEq, Repr

/-- The fault at an index of a text. -/
def ReadError.locate (t : Text) (fault : Fault) (index : Nat) : ReadError :=
  let before := t.take index
  let lastLine := before.reverse.takeWhile (· != ('\n' : CodePoint))
  .malformed fault (before.count ('\n' : CodePoint) + 1) (lastLine.length + 1) index

/-- The words for a reading error. -/
def ReadError.message : ReadError → Text
  | .malformed fault line column index =>
    fault.message ++ ": line " ++ Decimal.ofNat line ++ " column " ++ Decimal.ofNat column
      ++ " (char " ++ Decimal.ofNat index ++ ")"
  | .integerTooLong digits => Literal.tooLongMessage digits

/-- **Read** a whole text as one document. -/
def read (t : Text) : Except ReadError Json :=
  let outcome : Except Stop Json :=
    match t with
    | [] => .error (.fault .valueExpected [])
    | c :: _ =>
      if c.val = 0xFEFF then .error (.fault .byteOrderMark t)
      else
        match value (2 * t.length + 2) (skip t) with
        | .error stop => .error stop
        | .ok (v, rest) =>
          match skip rest with
          | [] => .ok v
          | junk => .error (.fault .extraData junk)
  match outcome with
  | .ok v => .ok v
  | .error (.integerTooLong n) => .error (.integerTooLong n)
  | .error (.fault fault rest) => .error (.locate t fault (t.length - rest.length))

end Json
end OpenBroker
