/-
What a tick does, and what it leaves behind when it faults.

A tick of a well-formed machine ends in the fault that `Core.fault?` names and in no other error,
and a tick that faults has done nothing but the fetch: the console stops, a pending drawing is
signalled, and everything else is as it was.

* `tick_of_fault`, `tick_of_clear` : a tick in full, in both cases;
* `tick_error_iff` : which ticks fault, and how;
* `tick_state_of_error` : a fault leaves no instruction half done.
-/
import Chip8.Console.Command
import Chip8.Proofs.Core.Fetch

namespace Chip8.Console

variable {c : Console}

/-- The console that a fault stops. -/
def stopped (c : Console) : Console := { c.signalDraw with running := false }

theorem halt_raise (c : Console) (place : Place) (cause : Cause) :
    c.halt place cause.raise = ⟨c.stopped, .error (.fault ⟨cause, place⟩),
      #["Emulation halted: " ++ Fault.message ⟨cause, place⟩]⟩ := rfl

/-- A tick that faults stops the console behind the fetch, which itself may have failed. -/
theorem tick_of_fault (h : c.core.WellFormed) {f : Fault} (hf : c.core.fault? = some f) :
    c.tick = ⟨{ c with
      core := if c.core.registers.pc < 0xFFF then c.core.advanced else c.core }.stopped,
      .error (.fault f), #["Emulation halted: " ++ f.message]⟩ := by
  by_cases hpc : c.core.registers.pc < 0xFFF
  · rw [Core.fault?_of_lt hpc] at hf
    obtain ⟨cause, hcause, rfl⟩ := Option.map_eq_some_iff.mp hf
    -- The obstacle was seen before the fetch, but the instruction meets it behind the fetch.
    rw [← Core.obstacle?_advanced] at hcause
    have hexec := Core.execute_of_obstacle (h.advanced hpc) hcause
    simp only [tick, Core.fetch_of_lt h hpc, if_pos hpc]
    rw [show Instr.decode c.core.word = c.core.instr from rfl, hexec]
    exact halt_raise _ _ _
  · rw [Core.fault?_of_le (Int.not_lt.mp hpc), Option.some_inj] at hf
    subst hf
    simp only [tick, Core.fetch_of_le (Int.not_lt.mp hpc), if_neg hpc]
    exact halt_raise _ _ _

/-- A tick that does not fault runs the instruction behind the fetch and counts it. -/
theorem tick_of_clear (h : c.core.WellFormed) (hf : c.core.fault? = none) :
    c.tick = ⟨{ c with
        core := (c.core.advanced.execute c.core.instr).state, cycles := c.cycles + 1 },
      .ok (), (c.core.instr.trace c.core.advanced
        (c.core.advanced.execute c.core.instr).state).toArray⟩ := by
  obtain ⟨hpc, hclear⟩ := Core.fault?_eq_none_iff.mp hf
  rw [← Core.obstacle?_advanced] at hclear
  have hexec := Core.execute_of_clear (h.advanced hpc) hclear
  simp only [tick, Core.fetch_of_lt h hpc]
  rw [show Instr.decode c.core.word = c.core.instr from rfl, hexec]

/-- Nothing was in the way of a tick that succeeds. -/
theorem fault?_of_ok (h : c.core.WellFormed) (hok : c.tick.result = .ok ()) :
    c.core.fault? = none := by
  cases hf : c.core.fault? with
  | none => rfl
  | some f =>
    rw [tick_of_fault h hf] at hok
    cases hok

/-- A tick that succeeds has run the instruction that it found. -/
theorem tick_core_of_ok (h : c.core.WellFormed) (hok : c.tick.result = .ok ()) :
    c.core.registers.pc < 0xFFF ∧
      c.tick.state.core = (c.core.advanced.execute c.core.instr).state := by
  have hf := fault?_of_ok h hok
  rw [tick_of_clear h hf]
  exact ⟨(Core.fault?_eq_none_iff.mp hf).1, rfl⟩

/-- A tick of a well-formed machine fails with the fault that `Core.fault?` names, and with nothing
else; if that names none, the tick succeeds, counts its instruction and leaves a well-formed
machine. -/
theorem tick_error_iff (h : c.core.WellFormed) :
    (∀ e, c.tick.result = .error e ↔ ∃ f, c.core.fault? = some f ∧ e = .fault f) ∧
    (c.core.fault? = none → c.tick.result = .ok () ∧ c.tick.state.core.WellFormed ∧
      c.tick.state.cycles = c.cycles + 1) := by
  cases hf : c.core.fault? with
  | some f =>
    rw [tick_of_fault h hf]
    refine ⟨fun e => ?_, nofun⟩
    constructor
    · intro he
      exact ⟨f, rfl, (Except.error.inj he).symm⟩
    · rintro ⟨f', hf', rfl⟩
      rw [Option.some_inj.mp hf']
  | none =>
    have hpc := (Core.fault?_eq_none_iff.mp hf).1
    rw [tick_of_clear h hf]
    refine ⟨fun e => ?_, fun _ => ⟨rfl, Core.execute_wellFormed (h.advanced hpc) _, rfl⟩⟩
    constructor
    · intro he
      cases he
    · rintro ⟨f, hf', -⟩
      cases hf'

/-- A new console with a program at the bottom of memory, where the program counter is. -/
def holding (program : List UInt8) : Console :=
  let c := new 10 false (.cycle #[])
  let memory := { c.core.memory with ram := Ram.zero.splice 0 program }
  { c with core := { c.core with memory := memory } }

/-- V0 to V2 do not fit into memory from `0xFFE` on. -/
theorem tick_error_past_end :
    (holding [0xAF, 0xFE, 0xF2, 0x55]).tick.state.core.WellFormed ∧
      (holding [0xAF, 0xFE, 0xF2, 0x55]).tick.state.tick.result =
        .error (.fault ⟨.outOfBounds 4096, .instruction 0x002 0xF255⟩) := by
  have h : (holding [0xAF, 0xFE, 0xF2, 0x55]).tick.state.core.WellFormed := by decide +kernel
  exact ⟨h, ((tick_error_iff h).1 _).mpr ⟨_, by decide +kernel, rfl⟩⟩

/-- A tick that faults leaves behind what was there before it, but for the console having stopped,
a pending drawing being signalled, and the program counter being behind the instruction if there
was one to fetch. -/
theorem tick_state_of_error (h : c.core.WellFormed) {e : Error} (he : c.tick.result = .error e) :
    c.tick.state = { c with
      running := false
      drawNeeded := c.drawNeeded || c.core.drawn
      core := { c.core with
        drawn := false
        registers := { c.core.registers with
          pc := if c.core.fetch.isOk then c.core.registers.pc + 2
            else c.core.registers.pc } } } := by
  cases hf : c.core.fault? with
  | none =>
    rw [tick_of_clear h hf] at he
    cases he
  | some f =>
    rw [tick_of_fault h hf]
    by_cases hpc : c.core.registers.pc < 0xFFF
    · simp only [if_pos hpc, Core.fetch_of_lt h hpc]
      rfl
    · simp only [if_neg hpc, Core.fetch_of_le (Int.not_lt.mp hpc)]
      rfl

/-- V0 to V2 would fit into memory in part, but none of it is written. -/
theorem tick_state_of_failed_store :
    (holding [0xAF, 0xFE, 0xF2, 0x55]).tick.state.core.WellFormed ∧
      (holding [0xAF, 0xFE, 0xF2, 0x55]).tick.state.tick.state.core.memory =
        (holding [0xAF, 0xFE, 0xF2, 0x55]).tick.state.core.memory := by
  have h : (holding [0xAF, 0xFE, 0xF2, 0x55]).tick.state.core.WellFormed := by decide +kernel
  have hf : (holding [0xAF, 0xFE, 0xF2, 0x55]).tick.state.core.fault? =
      some ⟨.outOfBounds 4096, .instruction 0x002 0xF255⟩ := by
    decide +kernel
  have he := congrArg Outcome.result (tick_of_fault h hf)
  exact ⟨h, by rw [tick_state_of_error h he]⟩

end Chip8.Console
