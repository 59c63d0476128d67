/-
The processor and all that its instructions work on.

Fetching reads the big-endian word at the program counter and moves the counter behind it, before
the instruction runs.
-/
import Chip8.Instr.Basic
import Chip8.Keys
import Chip8.Noise
import Chip8.Storage.Memory
import Chip8.Storage.Registers

namespace Chip8

structure Core where
  registers : Registers
  memory : Memory
  keys : Keys
  noise : Noise
  /-- Whether `awaitKey` repeats itself until a key is down. -/
  waitForKey : Bool
  /-- Whether the display was drawn on since this was last asked. -/
  drawn : Bool

namespace Core

def initial (waitForKey : Bool) (noise : Noise) : Core :=
  ⟨.zero, .initial, .allUp, noise, waitForKey, false⟩

def v (c : Core) (x : Reg) : Int := c.registers.get x

/-- The stretch of memory from I on, `n` bytes long, for an address I. -/
def atIndex (c : Core) (n : Nat) : List UInt8 := c.memory.ram.slice c.registers.i.toNat n

def withRegisters (c : Core) (r : Registers) : Core := { c with registers := r }

def withRam (c : Core) (ram : Ram) : Core := { c with memory := { c.memory with ram := ram } }

/-- The word at the program counter, and the machine behind it. -/
def fetch (c : Core) : Except Error (Word × Core) :=
  (c.memory.ram.readWord c.registers.pc).map fun word =>
    (word, c.withRegisters { c.registers with pc := (c.registers.pc + 2) % 65536 })

end Core
end Chip8
