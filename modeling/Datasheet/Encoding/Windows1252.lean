import Datasheet.Encoding.Basic

/-!
# Windows-1252

A legacy encoding of western languages. Each byte is a character, so nothing is
malformed.
-/

namespace Datasheet

namespace Windows1252

/-- The characters of the bytes `0x80` to `0x9F`; unassigned bytes are controls. -/
def high : List Nat :=
  [0x20AC, 0x81, 0x201A, 0x192, 0x201E, 0x2026, 0x2020, 0x2021, 0x2C6, 0x2030, 0x160, 0x2039, 0x152,
   0x8D, 0x17D, 0x8F, 0x90, 0x2018, 0x2019, 0x201C, 0x201D, 0x2022, 0x2013, 0x2014, 0x2DC, 0x2122,
   0x161, 0x203A, 0x153, 0x9D, 0x17E, 0x178]

/-- The character of a byte: itself, but for `0x80` to `0x9F`. -/
def char (b : UInt8) : Char :=
  if 0x80 ≤ b && b < 0xA0 then Char.ofNat (high[b.toNat - 0x80]?.getD b.toNat)
  else Char.ofNat b.toNat

def decode (bytes : List UInt8) : List Char := bytes.map char

end Windows1252

def Encoding.windows1252 : Encoding := .legacy ⟨"windows-1252", Windows1252.decode⟩

end Datasheet
