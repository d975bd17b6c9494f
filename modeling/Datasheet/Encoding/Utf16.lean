/-!
# UTF-16

Bytes are taken in pairs as code units of either byte order; two units of a
surrogate pair are one character. In the decoded list `none` stands for a
malformed part: half of a pair, or what an end in the middle of a unit or of a
pair leaves over.
-/

namespace Datasheet.Utf16

inductive ByteOrder where
  | little
  | big
deriving DecidableEq

def ByteOrder.unit : ByteOrder → UInt8 → UInt8 → Nat
  | little, a, b => a.toNat + 256 * b.toNat
  | big, a, b => 256 * a.toNat + b.toNat

def isHighSurrogate (n : Nat) : Bool := 0xD800 ≤ n && n < 0xDC00

def isLowSurrogate (n : Nat) : Bool := 0xDC00 ≤ n && n < 0xE000

/-- The characters of some bytes after the first half of a pair. -/
def decodeFrom (order : ByteOrder) : Option Nat → List UInt8 → List (Option Char)
  | none, [] => []
  | some _, [] => [none]
  | _, [_] => [none]
  | some high, a :: b :: bytes =>
    let n := order.unit a b
    if isLowSurrogate n then
      some (Char.ofNat (0x10000 + (high - 0xD800) * 0x400 + (n - 0xDC00)))
        :: decodeFrom order none bytes
    else if isHighSurrogate n then none :: decodeFrom order (some n) bytes
    else none :: some (Char.ofNat n) :: decodeFrom order none bytes
  | none, a :: b :: bytes =>
    let n := order.unit a b
    if isHighSurrogate n then decodeFrom order (some n) bytes
    else if isLowSurrogate n then none :: decodeFrom order none bytes
    else some (Char.ofNat n) :: decodeFrom order none bytes

def decode (order : ByteOrder) (bytes : List UInt8) : List (Option Char) :=
  decodeFrom order none bytes

/-- The bytes of a code unit. -/
def unitBytes (order : ByteOrder) (n : Nat) : List UInt8 :=
  match order with
  | .little => [UInt8.ofNat n, UInt8.ofNat (n / 256)]
  | .big => [UInt8.ofNat (n / 256), UInt8.ofNat n]

def encodeChar (order : ByteOrder) (c : Char) : List UInt8 :=
  if c.toNat < 0x10000 then unitBytes order c.toNat
  else
    unitBytes order (0xD800 + (c.toNat - 0x10000) / 0x400)
      ++ unitBytes order (0xDC00 + (c.toNat - 0x10000) % 0x400)

def encode (order : ByteOrder) (cs : List Char) : List UInt8 := cs.flatMap (encodeChar order)

end Datasheet.Utf16
