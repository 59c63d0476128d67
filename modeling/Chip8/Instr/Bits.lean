/-
The bits of integers.

Integers are taken in two's complement: those below zero have set bits from some place on.

* `Bits.bit_or`, `Bits.bit_and`, `Bits.bit_xor` : the operations go bit by bit.
-/
namespace Chip8.Bits

/-- The bit of an integer at a place. -/
def bit : Int → Nat → Bool
  | .ofNat m, k => m.testBit k
  | .negSucc m, k => !m.testBit k

/-- The bits of the first number that are not in the second. -/
def without (m n : Nat) : Nat := m ^^^ (m &&& n)

def or : Int → Int → Int
  | .ofNat m, .ofNat n => .ofNat (m ||| n)
  | .ofNat m, .negSucc n => .negSucc (without n m)
  | .negSucc m, .ofNat n => .negSucc (without m n)
  | .negSucc m, .negSucc n => .negSucc (m &&& n)

def and : Int → Int → Int
  | .ofNat m, .ofNat n => .ofNat (m &&& n)
  | .ofNat m, .negSucc n => .ofNat (without m n)
  | .negSucc m, .ofNat n => .ofNat (without n m)
  | .negSucc m, .negSucc n => .negSucc (m ||| n)

def xor : Int → Int → Int
  | .ofNat m, .ofNat n => .ofNat (m ^^^ n)
  | .ofNat m, .negSucc n => .negSucc (m ^^^ n)
  | .negSucc m, .ofNat n => .negSucc (m ^^^ n)
  | .negSucc m, .negSucc n => .ofNat (m ^^^ n)

theorem testBit_without (m n k : Nat) :
    (without m n).testBit k = (m.testBit k && !n.testBit k) := by
  rw [without, Nat.testBit_xor, Nat.testBit_and]
  cases m.testBit k <;> cases n.testBit k <;> rfl

theorem bit_or (y z : Int) (k : Nat) : bit (or y z) k = (bit y k || bit z k) := by
  cases y <;> cases z <;> simp [bit, or, testBit_without, Bool.or_comm]

theorem bit_and (y z : Int) (k : Nat) : bit (and y z) k = (bit y k && bit z k) := by
  cases y <;> cases z <;> simp [bit, and, testBit_without, Bool.and_comm]

theorem bit_xor (y z : Int) (k : Nat) : bit (xor y z) k = (bit y k ^^ bit z k) := by
  cases y <;> cases z <;> simp [bit, xor]

end Chip8.Bits
