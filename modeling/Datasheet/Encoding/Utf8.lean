/-!
# UTF-8

Decoding answers a list in which `none` stands for a malformed part: the longest
start of a character that the bytes break off, or a byte that starts none. The
decoder keeps how many bytes an open character is owed and the bounds of the
next one, so overlong forms, surrogates and what lies beyond U+10FFFF are
malformed from their second byte on.
-/

namespace Datasheet.Utf8

/-- A character that is not complete: the value of its bytes so far, how many are
owed, and the least and greatest that the next may be. -/
structure Open where
  value : Nat
  owed : Nat
  least : Nat
  greatest : Nat
deriving DecidableEq

/-- What a byte between characters is: a character, the start of one, or neither. -/
inductive Lead where
  | char (c : Char)
  | start (o : Open)
  | malformed
deriving DecidableEq

def lead (b : Nat) : Lead :=
  if b < 0x80 then .char (Char.ofNat b)
  else if b < 0xC2 then .malformed
  else if b < 0xE0 then .start ⟨b - 0xC0, 1, 0x80, 0xBF⟩
  else if b < 0xF0 then
    .start ⟨b - 0xE0, 2, if b = 0xE0 then 0xA0 else 0x80, if b = 0xED then 0x9F else 0xBF⟩
  else if b < 0xF5 then
    .start ⟨b - 0xF0, 3, if b = 0xF0 then 0x90 else 0x80, if b = 0xF4 then 0x8F else 0xBF⟩
  else .malformed

/-- The characters of some bytes after an open character. -/
def decodeFrom : Option Open → List UInt8 → List (Option Char)
  | none, [] => []
  | some _, [] => [none]
  | none, b :: bytes =>
    match lead b.toNat with
    | .char c => some c :: decodeFrom none bytes
    | .start o => decodeFrom (some o) bytes
    | .malformed => none :: decodeFrom none bytes
  | some o, b :: bytes =>
    if o.least ≤ b.toNat && b.toNat ≤ o.greatest then
      let value := o.value * 64 + (b.toNat - 0x80)
      if o.owed = 1 then some (Char.ofNat value) :: decodeFrom none bytes
      else decodeFrom (some ⟨value, o.owed - 1, 0x80, 0xBF⟩) bytes
    else
      none ::
        match lead b.toNat with
        | .char c => some c :: decodeFrom none bytes
        | .start o => decodeFrom (some o) bytes
        | .malformed => none :: decodeFrom none bytes

def decode (bytes : List UInt8) : List (Option Char) := decodeFrom none bytes

/-- Whether no part of the bytes is malformed. -/
def isValid (bytes : List UInt8) : Bool := (decode bytes).all Option.isSome

/-- The bytes of a character. -/
def encodeChar (c : Char) : List UInt8 :=
  let n := c.toNat
  let bytes :=
    if n < 0x80 then [n]
    else if n < 0x800 then [0xC0 + n / 64, 0x80 + n % 64]
    else if n < 0x10000 then [0xE0 + n / 4096, 0x80 + n / 64 % 64, 0x80 + n % 64]
    else [0xF0 + n / 262144, 0x80 + n / 4096 % 64, 0x80 + n / 64 % 64, 0x80 + n % 64]
  bytes.map UInt8.ofNat

def encode (cs : List Char) : List UInt8 := cs.flatMap encodeChar

end Datasheet.Utf8
