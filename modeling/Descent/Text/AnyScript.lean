-- SUMMARY: Units beyond ASCII that are written for digits and for blanks.

/-!
# Digits and blanks of all scripts

Every script with decimal digits has the ten of them at consecutive code points,
from zero to nine, so that a table of the zeros says which units are digits and
which number each stands for. The blanks are the ASCII ones and the units beyond
ASCII that are spaces or that separate lines and paragraphs.
-/

namespace Descent.Text

/-- The code points of the zeros of all scripts, in ascending order. -/
def scriptZeros : Array Nat :=
  #[
    0x30, 0x660, 0x6f0, 0x7c0, 0x966, 0x9e6, 0xa66, 0xae6, 0xb66, 0xbe6, 0xc66, 0xce6, 0xd66,
    0xde6, 0xe50, 0xed0, 0xf20, 0x1040, 0x1090, 0x17e0, 0x1810, 0x1946, 0x19d0, 0x1a80, 0x1a90,
    0x1b50, 0x1bb0, 0x1c40, 0x1c50, 0xa620, 0xa8d0, 0xa900, 0xa9d0, 0xa9f0, 0xaa50, 0xabf0,
    0xff10, 0x104a0, 0x10d30, 0x11066, 0x110f0, 0x11136, 0x111d0, 0x112f0, 0x11450, 0x114d0,
    0x11650, 0x116c0, 0x11730, 0x118e0, 0x11950, 0x11c50, 0x11d50, 0x11da0, 0x16a60, 0x16ac0,
    0x16b50, 0x1d7ce, 0x1d7d8, 0x1d7e2, 0x1d7ec, 0x1d7f6, 0x1e140, 0x1e2f0, 0x1e950, 0x1fbf0
  ]

/-- The plain digit for the number that a digit of any script stands for. -/
def plainDigit? (c : Char) : Option Char :=
  (scriptZeros.find? fun first => first ≤ c.toNat && c.toNat < first + 10).map fun first =>
    Char.ofNat ('0'.toNat + (c.toNat - first))

/-- Whether a unit may stand around a numeral. -/
def isOuterBlank (c : Char) : Bool :=
  c ∈ [' ', '\t', '\n', '\x0b', '\x0c', '\r', '\u0085', '\u00a0', '\u1680', '\u2028', '\u2029',
    '\u202f', '\u205f', '\u3000'] || (0x2000 ≤ c.toNat && c.toNat ≤ 0x200a)

end Descent.Text
