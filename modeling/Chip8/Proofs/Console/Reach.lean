/-
The consoles that can be reached.

From a new console, by any commands in any order, and at any speed, only orderly machines are
reached: all registers are in range, the program counter is at most `0x10FE`, and the call stack
holds addresses from which a call can have been made.  So the reductions modulo `65536` that
fetching, skipping and waiting for a key make never do anything.

* `lasting_wellFormed`, `lasting_orderly` : no command leaves the ranges, nor the order;
* `reachable_orderly` : all reachable machines are orderly, and no address wraps around in them.
-/
import Chip8.Proofs.Console.Run
import Chip8.Proofs.Console.Tick
import Chip8.Proofs.Core.Orderly

namespace Chip8

namespace Core

variable {c : Core}

theorem Orderly.advanced (h : c.Orderly) (hpc : c.registers.pc < 0xFFF) : c.advanced.Orderly := by
  refine ⟨h.wellFormed.advanced hpc, ?_, h.stack⟩
  show c.registers.pc + 2 ≤ 0x10FE
  omega

/-- A machine with its call stack empty and its registers at zero, but for the program counter. -/
theorem orderly_reset {pc : Int} (hlow : 0 ≤ pc) (hhigh : pc ≤ 0x10FE)
    (hregisters : c.registers = { Registers.zero with pc := pc })
    (hstack : c.memory.stack = .empty) : c.Orderly := by
  refine ⟨?_, ?_, ?_⟩
  · rw [WellFormed, hregisters]
    exact Registers.inRange_zero.withPc (by omega)
  · rw [hregisters]
    exact hhigh
  · rw [hregisters, hstack]
    exact CallStack.orderly_empty

end Core

namespace Console

/-- The consoles that a front end can bring about from a new one. -/
inductive Reachable : Console → Prop
  | new (ticksPerFrame : Int) (waitForKey : Bool) (noise : Noise) :
      Reachable (.new ticksPerFrame waitForKey noise)
  /-- The speed may change at any time. -/
  | setSpeed {c : Console} (ticksPerFrame : Int) (h : Reachable c) :
      Reachable { c with ticksPerFrame := ticksPerFrame }
  | obey {c : Console} (command : Command) (h : Reachable c) : Reachable (c.obey command).state
  /-- In the middle of a frame. -/
  | timerStep {c : Console} (h : Reachable c) : Reachable c.timerStep

theorem Reachable.obeyAll {c : Console} (h : Reachable c) (commands : List Command) :
    Reachable (c.obeyAll commands) :=
  obeyAll_keep (fun command h => h.obey command) h commands

variable {c : Console}

theorem orderly_new (ticksPerFrame : Int) (waitForKey : Bool) (noise : Noise) :
    (new ticksPerFrame waitForKey noise).core.Orderly :=
  Core.orderly_reset (Int.le_refl 0) (by decide) rfl rfl

theorem orderly_booted (c : Console) (cartridge : Cartridge) : (c.booted cartridge).core.Orderly :=
  Core.orderly_reset (by decide) (by decide) rfl rfl

theorem tick_orderly (h : c.core.Orderly) : c.tick.state.core.Orderly := by
  cases hf : c.core.fault? with
  | some f =>
    rw [tick_of_fault h.wellFormed hf]
    by_cases hpc : c.core.registers.pc < 0xFFF
    · have hnext := h.advanced hpc
      rw [if_pos hpc]
      exact ⟨hnext.wellFormed, hnext.pc_le, hnext.stack⟩
    · rw [if_neg hpc]
      exact ⟨h.wellFormed, h.pc_le, h.stack⟩
  | none =>
    have hpc := (Core.fault?_eq_none_iff.mp hf).1
    have hlow := h.wellFormed.pc
    rw [tick_of_clear h.wellFormed hf]
    refine Core.execute_orderly (h.advanced hpc) ?_ ?_ _
    · show 2 ≤ c.core.registers.pc + 2
      omega
    · show c.core.registers.pc + 2 ≤ 0x1000
      omega

theorem timerStep_orderly (h : c.core.Orderly) : c.timerStep.core.Orderly :=
  ⟨h.wellFormed.countDown, h.pc_le, h.stack⟩

theorem tick_wellFormed (h : c.core.WellFormed) : c.tick.state.core.WellFormed := by
  cases hf : c.core.fault? with
  | some f =>
    rw [tick_of_fault h hf]
    by_cases hpc : c.core.registers.pc < 0xFFF
    · rw [if_pos hpc]
      exact h.advanced hpc
    · rw [if_neg hpc]
      exact h
  | none =>
    rw [tick_of_clear h hf]
    exact Core.execute_wellFormed (h.advanced (Core.fault?_eq_none_iff.mp hf).1) _

/-- No command takes a register out of its range, from wherever the registers were set. -/
theorem lasting_wellFormed : Lasting Core.WellFormed where
  kept := ⟨tick_wellFormed, fun h => h.countDown, fun h => h⟩
  keys _ h := h
  booted _ _ := Registers.inRange_zero.withPc (by decide)
  cleared _ := Registers.inRange_zero

theorem kept_orderly : Kept fun c => c.core.Orderly where
  tick := tick_orderly
  timerStep := timerStep_orderly
  signalDraw h := ⟨h.wellFormed, h.pc_le, h.stack⟩

theorem lasting_orderly : Lasting Core.Orderly where
  kept := kept_orderly
  keys _ h := ⟨h.wellFormed, h.pc_le, h.stack⟩
  booted := orderly_booted
  cleared _ := Core.orderly_reset (Int.le_refl 0) (by decide) rfl rfl

/-- **Reachable machines are orderly**, and where the address of an instruction is computed modulo
`65536`, behind a fetch, in a skip and in going back to wait for a key, the reduction leaves it as
it is. -/
theorem reachable_orderly (h : Reachable c) :
    c.core.Orderly ∧ ∀ word after, c.core.fetch = .ok (word, after) →
      after.registers.pc = c.core.registers.pc + 2 ∧
      (after.skipIf true).registers.pc = after.registers.pc + 2 ∧
      ∀ x, after.keys.first? = none → after.waitForKey = true →
        (after.awaitKey x).registers.pc = after.registers.pc - 2 := by
  have horderly : c.core.Orderly := by
    induction h with
    | new ticksPerFrame waitForKey noise => exact orderly_new ticksPerFrame waitForKey noise
    | setSpeed ticksPerFrame _ ih => exact ih
    | obey command _ ih => exact lasting_orderly.obey ih command
    | timerStep _ ih => exact timerStep_orderly ih
  refine ⟨horderly, ?_⟩
  intro word after hfetch
  obtain ⟨hpc, -, rfl⟩ := (Core.fetch_eq_ok_iff horderly.wellFormed).mp hfetch
  have hlow := horderly.wellFormed.pc
  refine ⟨rfl, ?_, ?_⟩
  · show (c.core.registers.pc + 2 + 2) % 65536 = c.core.registers.pc + 2 + 2
    omega
  · intro x hkeys hwait
    rw [Core.awaitKey_of_none x hkeys hwait]
    -- Behind a fetch there are two to go back.
    show (c.core.registers.pc + 2 - 2) % 65536 = c.core.registers.pc + 2 - 2
    omega

/-- A console on which a program was loaded and started. -/
def started (program : List UInt8) : Console :=
  (new 10 false (.cycle #[])).obeyAll [.load program, .start]

/-- A call from `0x200` leaves `0x202` in the lowest slot that is in use. -/
theorem reachable_orderly_called :
    Reachable ((started [0x22, 0x02]).obey .tick).state ∧
      ((started [0x22, 0x02]).obey .tick).state.core.Orderly ∧
      ((started [0x22, 0x02]).obey .tick).state.core.memory.stack.slot? 1 = some 0x202 := by
  have h : Reachable ((started [0x22, 0x02]).obey .tick).state :=
    (((Reachable.new 10 false (.cycle #[])).obeyAll _).obey _)
  exact ⟨h, (reachable_orderly h).1, by decide +kernel⟩

end Console
end Chip8
