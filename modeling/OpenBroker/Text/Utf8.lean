import OpenBroker.Text.Basic

/-!
# UTF-8

Documents and paths travel as bytes.  Decoding cuts a byte sequence into pieces:
a piece is either a code point, or a run of bytes that begins a sequence and
cannot be continued.  A faulty run is as long as it can be while it still begins
some well-formed sequence, and at least one byte.

Both ways to decode read the same pieces.  The strict one stops at the first
faulty piece and reports where it lies and what is wrong with it; the lenient one
puts the replacement character in the place of each.  Bytes are never lost: the
pieces together are as long as the input.
-/
namespace OpenBroker
namespace Utf8

/-- The bytes of one code point. -/
def encodePoint (c : CodePoint) : List UInt8 :=
  let n := c.val
  if n < 0x80 then [UInt8.ofNat n]
  else if n < 0x800 then [UInt8.ofNat (0xC0 + n / 0x40), UInt8.ofNat (0x80 + n % 0x40)]
  else if n < 0x10000 then
    [UInt8.ofNat (0xE0 + n / 0x1000), UInt8.ofNat (0x80 + n / 0x40 % 0x40),
      UInt8.ofNat (0x80 + n % 0x40)]
  else
    [UInt8.ofNat (0xF0 + n / 0x40000), UInt8.ofNat (0x80 + n / 0x1000 % 0x40),
      UInt8.ofNat (0x80 + n / 0x40 % 0x40), UInt8.ofNat (0x80 + n % 0x40)]

/-- The bytes of a text. -/
def encode (t : Text) : List UInt8 := t.flatMap encodePoint

/-- What is wrong with a faulty piece. -/
inductive Fault
  /-- The first byte begins no sequence. -/
  | invalidStart
  /-- The byte after the piece does not continue it. -/
  | invalidContinuation
  /-- The input ends inside a sequence. -/
  | truncated
  deriving DecidableEq, Repr

/-- The words for a fault. -/
def Fault.message : Fault → Text
  | .invalidStart => "invalid start byte"
  | .invalidContinuation => "invalid continuation byte"
  | .truncated => "unexpected end of data"

/-- **Piece.**  A code point, or a faulty run of a length. -/
inductive Piece
  | point (c : CodePoint)
  | bad (fault : Fault) (width : Nat)
  deriving DecidableEq, Repr

/-- **Open sequence.**  A sequence that has begun and needs `missing` more
bytes, the next of them from `low` to `high`; `value` holds the bits read and
`width` the bytes. -/
structure Unfinished where
  value : Nat
  missing : Nat
  low : Nat
  high : Nat
  width : Nat
  deriving DecidableEq, Repr

/-- What a byte does where a sequence may begin. -/
def lead (b : UInt8) : Piece ⊕ Unfinished :=
  let n := b.toNat
  let opens (value missing low high : Nat) : Piece ⊕ Unfinished :=
    .inr ⟨value, missing, low, high, 1⟩
  if n < 0x80 then .inl (.point (CodePoint.ofNat n))
  else if n < 0xC2 then .inl (.bad .invalidStart 1)
  else if n < 0xE0 then opens (n - 0xC0) 1 0x80 0xBF
  else if n = 0xE0 then opens 0 2 0xA0 0xBF
  else if n = 0xED then opens 0xD 2 0x80 0x9F
  else if n < 0xF0 then opens (n - 0xE0) 2 0x80 0xBF
  else if n = 0xF0 then opens 0 3 0x90 0xBF
  else if n < 0xF4 then opens (n - 0xF0) 3 0x80 0xBF
  else if n = 0xF4 then opens 4 3 0x80 0x8F
  else .inl (.bad .invalidStart 1)

/-- What a byte does to an open sequence, if it continues it. -/
def Unfinished.continue? (u : Unfinished) (b : UInt8) : Option (Piece ⊕ Unfinished) :=
  if u.low ≤ b.toNat ∧ b.toNat ≤ u.high then
    let value := u.value * 0x40 + b.toNat % 0x40
    if u.missing ≤ 1 then some (.inl (.point (CodePoint.ofNat value)))
    else some (.inr ⟨value, u.missing - 1, 0x80, 0xBF, u.width + 1⟩)
  else none

/-- **Pieces** of a byte sequence that follows an open sequence, if one is
open. -/
def pieces : Option Unfinished → List UInt8 → List Piece
  | none, [] => []
  | some u, [] => [.bad .truncated u.width]
  | none, b :: rest =>
    match lead b with
    | .inl piece => piece :: pieces none rest
    | .inr u => pieces (some u) rest
  | some u, b :: rest =>
    match u.continue? b with
    | some (.inl piece) => piece :: pieces none rest
    | some (.inr u') => pieces (some u') rest
    | none =>
      .bad .invalidContinuation u.width ::
        match lead b with
        | .inl piece => piece :: pieces none rest
        | .inr u' => pieces (some u') rest

/-- **Decoding error.**  The first faulty piece and where it begins. -/
structure DecodeError where
  fault : Fault
  position : Nat
  width : Nat
  deriving DecidableEq, Repr

/-- The text of the pieces, or the first faulty one among them; `position`
counts the bytes before them. -/
def assemble (position : Nat) : List Piece → Except DecodeError Text
  | [] => .ok []
  | .point c :: rest =>
    (assemble (position + (encodePoint c).length) rest).map (c :: ·)
  | .bad fault width :: _ => .error ⟨fault, position, width⟩

/-- **Strict decoding.** -/
def decode (bs : List UInt8) : Except DecodeError Text := assemble 0 (pieces none bs)

/-- The character that stands for what cannot be decoded. -/
def replacement : CodePoint := CodePoint.ofNat 0xFFFD

/-- **Lenient decoding**: each faulty piece becomes the replacement character. -/
def decodeLossy (bs : List UInt8) : Text :=
  (pieces none bs).map fun
    | .point c => c
    | .bad _ _ => replacement

end Utf8
end OpenBroker
