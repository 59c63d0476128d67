/-
Fetching, and the fault that a tick ends in.

A fetch needs two bytes, so the last address with a word is `0xFFE`.  `Core.fault?` tells from the
machine before a tick which fault the tick ends in, if any: there is no word at the program counter,
or something is in the way of the instruction there.

* `fetch_of_lt`, `fetch_of_le`, `fetch_eq_ok_iff` : where a fetch succeeds, and what it leaves;
* `of_fetch_eq_ok` : even with registers out of range it moves the program counter only;
* `fault?_eq_none_iff` : when a tick runs through.
-/
import Chip8.Proofs.Core.Obstacle

namespace Chip8.Core

variable {c : Core}

/-- The word at the program counter. -/
def word (c : Core) : Word :=
  Word.ofBytes (c.memory.ram.byte c.registers.pc.toNat)
    (c.memory.ram.byte (c.registers.pc.toNat + 1))

/-- The instruction at the program counter. -/
def instr (c : Core) : Instr := Instr.decode c.word

/-- The machine with the program counter behind the instruction there. -/
def advanced (c : Core) : Core := c.jump (c.registers.pc + 2)

theorem fetch_of_le (hpc : 0xFFF ≤ c.registers.pc) :
    c.fetch = .error (Cause.outOfBounds (max c.registers.pc 4096)).raise := by
  have hcheck : Ram.check c.registers.pc 2 =
      .error (Cause.outOfBounds (max c.registers.pc 4096)).raise := by
    rw [Ram.check, if_neg (by omega), if_pos (by omega)]
  rw [fetch, Ram.readWord, hcheck]
  rfl

theorem fetch_of_lt (h : c.WellFormed) (hpc : c.registers.pc < 0xFFF) :
    c.fetch = .ok (c.word, c.advanced) := by
  have hcheck : Ram.check c.registers.pc 2 = .ok () :=
    Ram.check_eq_ok_iff.mpr ⟨h.pc.1, by omega⟩
  have hnext : (c.registers.pc + 2) % 65536 = c.registers.pc + 2 :=
    Int.emod_eq_of_lt (by have := h.pc; omega) (by omega)
  rw [fetch, Ram.readWord, hcheck, hnext]
  rfl

/-- What a fetch that succeeds has fetched. -/
theorem fetch_eq_ok_iff (h : c.WellFormed) {word : Word} {after : Core} :
    c.fetch = .ok (word, after) ↔
      c.registers.pc < 0xFFF ∧ word = c.word ∧ after = c.advanced := by
  constructor
  · intro hfetch
    by_cases hpc : c.registers.pc < 0xFFF
    · rw [fetch_of_lt h hpc, Except.ok.injEq, Prod.mk.injEq] at hfetch
      exact ⟨hpc, hfetch.1.symm, hfetch.2.symm⟩
    · rw [fetch_of_le (Int.not_lt.mp hpc)] at hfetch
      cases hfetch
  · rintro ⟨hpc, rfl, rfl⟩
    exact fetch_of_lt h hpc

/-- A fetch of any machine moves nothing but the program counter. -/
theorem of_fetch_eq_ok {word : Word} {after : Core} (h : c.fetch = .ok (word, after)) :
    after = c.jump ((c.registers.pc + 2) % 65536) := by
  rw [fetch] at h
  cases hread : c.memory.ram.readWord c.registers.pc with
  | error e =>
    rw [hread] at h
    cases h
  | ok w =>
    rw [hread] at h
    cases h
    rfl

theorem WellFormed.advanced (h : c.WellFormed) (hpc : c.registers.pc < 0xFFF) :
    c.advanced.WellFormed := by
  refine h.jump ?_
  have := h.pc
  omega

/-- The fetch moves nothing that an instruction could be stopped by. -/
theorem obstacle?_advanced (c : Core) (i : Instr) : c.advanced.obstacle? i = c.obstacle? i := by
  cases i <;> rfl

/-- The fault that the next tick ends in, if it does not run through. -/
def fault? (c : Core) : Option Fault :=
  let pc := c.registers.pc
  if 0xFFF ≤ pc then some ⟨.outOfBounds (max pc 4096), .fetching pc⟩
  else (c.obstacle? c.instr).map fun cause => ⟨cause, .instruction pc c.word⟩

theorem fault?_of_le (hpc : 0xFFF ≤ c.registers.pc) :
    c.fault? = some ⟨.outOfBounds (max c.registers.pc 4096), .fetching c.registers.pc⟩ :=
  if_pos hpc

theorem fault?_of_lt (hpc : c.registers.pc < 0xFFF) :
    c.fault? = (c.obstacle? c.instr).map fun cause =>
      ⟨cause, .instruction c.registers.pc c.word⟩ :=
  if_neg (Int.not_le.mpr hpc)

theorem fault?_eq_none_iff :
    c.fault? = none ↔ c.registers.pc < 0xFFF ∧ c.obstacle? c.instr = none := by
  by_cases hpc : c.registers.pc < 0xFFF
  · simp [fault?_of_lt hpc, hpc]
  · simp [fault?_of_le (Int.not_lt.mp hpc), hpc]

end Chip8.Core
