import OpenBroker.Charset.Basic

/-!
# UTF-16 and UTF-32

Two of the forms of Unicode have units of two and of four bytes.  The bytes of a unit
come in one of two orders.  Where no order is given, a mark at the beginning tells it and
is no part of the text, and without a mark the order is the small end first.  With a
given order such a mark is a character like any other.
-/
namespace OpenBroker
namespace Charset

/-- **Order** of the bytes of a unit. -/
inductive ByteOrder
  | bigEnd
  | smallEnd
  deriving DecidableEq, Repr

/-- The number of the bytes of a unit. -/
def ByteOrder.value (o : ByteOrder) (bytes : List UInt8) : Nat :=
  let ordered := match o with
    | .bigEnd => bytes
    | .smallEnd => bytes.reverse
  ordered.foldl (fun n b => n * 256 + b.toNat) 0

namespace Wide

/-! ## Units of two bytes -/

/-- The unit at the beginning of some bytes. -/
def unit? (o : ByteOrder) : List UInt8 → Option CodePoint
  | b :: c :: _ => some (CodePoint.ofNat (o.value [b, c]))
  | _ => none

/-- Reads a unit, and the second half of a pair behind a first one.  What is left of the
bytes behind a first half is malformed with it. -/
def read16 (o : ByteOrder) (b : UInt8) (rest : List UInt8) : Found :=
  match unit? o (b :: rest) with
  | none => .cutOff rest
  | some high =>
    if high.isHighSurrogate then
      match unit? o (rest.drop 1) with
      | none => .cutOff rest
      | some low => if low.isLowSurrogate then .text [.joined high low] 3 else .bad 1
    else if high.isLowSurrogate then .bad 1
    else .text [high] 1

/-- **UTF-16** in an order. -/
def decode16 (o : ByteOrder) : List UInt8 → Pieces := decodeBy (read16 o)

/-- **UTF-16** behind a mark, if there is one. -/
def decodeMarked16 : List UInt8 → Pieces
  | 0xFE :: 0xFF :: rest => decode16 .bigEnd rest
  | 0xFF :: 0xFE :: rest => decode16 .smallEnd rest
  | bytes => decode16 .smallEnd bytes

/-! ## Units of four bytes -/

/-- Reads a unit, which has to be a scalar value. -/
def read32 (o : ByteOrder) (b : UInt8) (rest : List UInt8) : Found :=
  match rest with
  | c :: d :: e :: _ =>
    let n := o.value [b, c, d, e]
    if n < 0x110000 ∧ (CodePoint.ofNat n).isScalar then .point n 3 else .bad 3
  | _ => .cutOff rest

/-- **UTF-32** in an order. -/
def decode32 (o : ByteOrder) : List UInt8 → Pieces := decodeBy (read32 o)

/-- **UTF-32** behind a mark, if there is one. -/
def decodeMarked32 : List UInt8 → Pieces
  | 0x00 :: 0x00 :: 0xFE :: 0xFF :: rest => decode32 .bigEnd rest
  | 0xFF :: 0xFE :: 0x00 :: 0x00 :: rest => decode32 .smallEnd rest
  | bytes => decode32 .smallEnd bytes

end Wide
end Charset
end OpenBroker
