/-
Numbers in range.

A register can be set to any integer from outside, so the ranges that programs keep are a
predicate and not a type: V0 to VF and the timers are bytes, I and the program counter are words,
and the stack pointer is the number of a slot.  `Core.WellFormed` asks for these; the sizes of
memory, display, stack and register file are part of their types.

* `InRange.put`, `InRange.putAll`, `InRange.flag` : writing bytes into registers keeps the ranges;
* `IsByte.or`, `IsByte.and`, `IsByte.xor` : so do the bitwise operations.
-/
import Chip8.Core.Execution

namespace Chip8

abbrev IsByte (z : Int) : Prop := 0 ≤ z ∧ z < 256

abbrev IsWord (z : Int) : Prop := 0 ≤ z ∧ z < 65536

/-- The number of a slot of the call stack. -/
abbrev IsSlot (z : Int) : Prop := 0 ≤ z ∧ z < 16

theorem isByte_toNat (b : UInt8) : IsByte b.toNat := by
  have := b.toNat_lt
  omega

theorem isByte_emod (z : Int) : IsByte (z % 256) :=
  ⟨Int.emod_nonneg z (by decide), Int.emod_lt_of_pos z (by decide)⟩

theorem isWord_emod (z : Int) : IsWord (z % 65536) :=
  ⟨Int.emod_nonneg z (by decide), Int.emod_lt_of_pos z (by decide)⟩

theorem isWord_toNat (w : Word) : IsWord w.toNat := by
  have := w.toNat_lt
  omega

namespace IsByte

variable {y z : Int}

theorem half (h : IsByte z) : IsByte (z / 2) := by
  omega

/-- A byte, as a natural number. -/
theorem exists_nat (h : IsByte z) : ∃ m : Nat, m < 256 ∧ z = .ofNat m :=
  ⟨z.toNat, by omega, (Int.toNat_of_nonneg h.1).symm⟩

theorem of_nat {m : Nat} (h : m < 256) : IsByte (.ofNat m) := by
  simp only [Int.ofNat_eq_natCast]
  omega

theorem or (hy : IsByte y) (hz : IsByte z) : IsByte (Bits.or y z) := by
  obtain ⟨m, hm, rfl⟩ := hy.exists_nat
  obtain ⟨n, hn, rfl⟩ := hz.exists_nat
  exact of_nat (Nat.or_lt_two_pow (n := 8) hm hn)

theorem and (hy : IsByte y) (hz : IsByte z) : IsByte (Bits.and y z) := by
  obtain ⟨m, hm, rfl⟩ := hy.exists_nat
  obtain ⟨n, hn, rfl⟩ := hz.exists_nat
  exact of_nat (Nat.and_lt_two_pow (n := 8) m hn)

theorem xor (hy : IsByte y) (hz : IsByte z) : IsByte (Bits.xor y z) := by
  obtain ⟨m, hm, rfl⟩ := hy.exists_nat
  obtain ⟨n, hn, rfl⟩ := hz.exists_nat
  exact of_nat (Nat.xor_lt_two_pow (n := 8) hm hn)

/-- A timer at zero stays there, so no timer leaves its range. -/
theorem stepped (h : IsByte z) : IsByte (Registers.stepped z) := by
  rw [Registers.stepped]
  split <;> omega

end IsByte

namespace Registers

section Fields

variable (r : Registers) (row : List Int)

@[simp] theorem putAll_i : (r.putAll row).i = r.i := by rw [putAll]

@[simp] theorem putAll_pc : (r.putAll row).pc = r.pc := by rw [putAll]

@[simp] theorem putAll_sp : (r.putAll row).sp = r.sp := by rw [putAll]

@[simp] theorem putAll_delay : (r.putAll row).delay = r.delay := by rw [putAll]

@[simp] theorem putAll_sound : (r.putAll row).sound = r.sound := by rw [putAll]

end Fields

/-- All registers are in the ranges that programs keep them in. -/
structure InRange (r : Registers) : Prop where
  v : ∀ x, IsByte (r.get x)
  i : IsWord r.i
  pc : IsWord r.pc
  sp : IsSlot r.sp
  delay : IsByte r.delay
  sound : IsByte r.sound

theorem inRange_iff {r : Registers} : r.InRange ↔
    (∀ x, IsByte (r.get x)) ∧ IsWord r.i ∧ IsWord r.pc ∧ IsSlot r.sp ∧ IsByte r.delay ∧
      IsByte r.sound :=
  ⟨fun h => ⟨h.v, h.i, h.pc, h.sp, h.delay, h.sound⟩,
    fun ⟨hv, hi, hpc, hsp, hdelay, hsound⟩ => ⟨hv, hi, hpc, hsp, hdelay, hsound⟩⟩

instance (r : Registers) : Decidable r.InRange := decidable_of_iff _ inRange_iff.symm

theorem get_zero (x : Reg) : zero.get x = 0 := by simp [get, zero]

theorem inRange_zero : zero.InRange where
  v x := by rw [get_zero]; decide
  i := by decide
  pc := by decide
  sp := by decide
  delay := by decide
  sound := by decide

namespace InRange

variable {r : Registers}

theorem put (h : r.InRange) (x : Reg) {z : Int} (hz : IsByte z) : (r.put x z).InRange where
  v y := by
    rw [get_put]
    split
    · exact hz
    · exact h.v y
  i := h.i
  pc := h.pc
  sp := h.sp
  delay := h.delay
  sound := h.sound

theorem flag (h : r.InRange) (raised : Bool) : (r.flag raised).InRange :=
  h.put .flag (by cases raised <;> decide)

theorem putAll (h : r.InRange) {row : List Int} (hrow : ∀ z ∈ row, IsByte z) :
    (r.putAll row).InRange where
  v y := by
    rw [get_putAll]
    cases hz : row[y.val]? with
    | none => exact h.v y
    | some z => exact hrow z (List.mem_of_getElem? hz)
  i := by simpa using h.i
  pc := by simpa using h.pc
  sp := by simpa using h.sp
  delay := by simpa using h.delay
  sound := by simpa using h.sound

theorem withPc (h : r.InRange) {pc : Int} (hpc : IsWord pc) : { r with pc := pc }.InRange :=
  ⟨h.v, h.i, hpc, h.sp, h.delay, h.sound⟩

theorem withIndex (h : r.InRange) {i : Int} (hi : IsWord i) : { r with i := i }.InRange :=
  ⟨h.v, hi, h.pc, h.sp, h.delay, h.sound⟩

theorem skipIf (h : r.InRange) (condition : Bool) : (r.skipIf condition).InRange := by
  rw [Registers.skipIf]
  split
  · exact h.withPc (isWord_emod _)
  · exact h

theorem countDown (h : r.InRange) : r.countDown.InRange :=
  ⟨h.v, h.i, h.pc, h.sp, h.delay.stepped, h.sound.stepped⟩

end InRange
end Registers

/-- The machine is as programs leave it: all its registers are in range. -/
def Core.WellFormed (c : Core) : Prop := c.registers.InRange

instance (c : Core) : Decidable c.WellFormed := inferInstanceAs (Decidable c.registers.InRange)

end Chip8
