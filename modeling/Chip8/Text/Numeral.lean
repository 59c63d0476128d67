/-
Numerals in the decimal digits of any script.

A numeral is a row of digits.  Some characters are digits without being decimal digits, such as a
superscript two: a row that holds one is no numeral, but it is told apart from a row with other
characters.  Numerals of more than 4300 digits are refused.

* `digitValue?_ascii` : the ASCII digits have their usual values.
-/
import Chip8.Text.Quoted

namespace Chip8.Text

/-- The code points of the zeros of all scripts; the digits one to nine follow each. -/
def decimalZeros : List Nat :=
  [0x30, 0x660, 0x6F0, 0x7C0, 0x966, 0x9E6, 0xA66, 0xAE6, 0xB66, 0xBE6, 0xC66, 0xCE6, 0xD66,
    0xDE6, 0xE50, 0xED0, 0xF20, 0x1040, 0x1090, 0x17E0, 0x1810, 0x1946, 0x19D0, 0x1A80, 0x1A90,
    0x1B50, 0x1BB0, 0x1C40, 0x1C50, 0xA620, 0xA8D0, 0xA900, 0xA9D0, 0xA9F0, 0xAA50, 0xABF0,
    0xFF10, 0x104A0, 0x10D30, 0x11066, 0x110F0, 0x11136, 0x111D0, 0x112F0, 0x11450, 0x114D0,
    0x11650, 0x116C0, 0x11730, 0x118E0, 0x11950, 0x11C50, 0x11D50, 0x11DA0, 0x16A60, 0x16AC0,
    0x16B50, 0x1D7CE, 0x1D7D8, 0x1D7E2, 0x1D7EC, 0x1D7F6, 0x1E140, 0x1E2F0, 0x1E950, 0x1FBF0]

/-- First and last code points of the ranges of digits that are not decimal. -/
def otherDigits : List (Nat × Nat) :=
  [(0xB2, 0xB3), (0xB9, 0xB9), (0x1369, 0x1371), (0x19DA, 0x19DA), (0x2070, 0x2070),
    (0x2074, 0x2079), (0x2080, 0x2089), (0x2460, 0x2468), (0x2474, 0x247C), (0x2488, 0x2490),
    (0x24EA, 0x24EA), (0x24F5, 0x24FD), (0x24FF, 0x24FF), (0x2776, 0x277E), (0x2780, 0x2788),
    (0x278A, 0x2792), (0x10A40, 0x10A43), (0x10E60, 0x10E68), (0x11052, 0x1105A),
    (0x1F100, 0x1F10A)]

/-- The value of a decimal digit. -/
def digitValue? (c : Char) : Option Nat :=
  (decimalZeros.find? fun start => start ≤ c.toNat && c.toNat ≤ start + 9).map (c.toNat - ·)

/-- A digit of any kind, decimal or not. -/
def isDigit (c : Char) : Bool :=
  (digitValue? c).isSome || otherDigits.any fun (first, last) => first ≤ c.toNat && c.toNat ≤ last

/-- What a text is when a number is expected. -/
inductive Numeral where
  /-- Empty, or with a character that is no digit. -/
  | notDigits
  /-- Digits, one of which at least is not decimal. -/
  | notDecimal
  /-- More digits than are read; their number. -/
  | tooLong (digits : Nat)
  | value (n : Nat)
  deriving DecidableEq, Repr

/-- The longest numeral that is read or written. -/
def maxDigits : Nat := 4300

/-- The number written by a row of digits, the most significant first. -/
def ofDigits (digits : List Nat) : Nat := digits.foldl (fun n d => 10 * n + d) 0

/-- Only the decimal digits before the first other digit count for the length. -/
def Numeral.ofChars (text : List Char) : Numeral :=
  if text.isEmpty || !text.all isDigit then .notDigits
  else
    let decimals := (text.takeWhile fun c => (digitValue? c).isSome).length
    if maxDigits < decimals then .tooLong decimals
    else match text.mapM digitValue? with
      | some digits => .value (ofDigits digits)
      | none => .notDecimal

def Numeral.ofString (text : String) : Numeral := Numeral.ofChars text.toList

/-- The first 200 characters of a text's quoted form. -/
def quotedStart (text : String) : String := String.ofList ((quotedChars text.toList).take 200)

theorem digitValue?_ascii : ∀ d : Fin 10, digitValue? (Char.ofNat (48 + d)) = some d.val := by
  decide +kernel

end Chip8.Text
