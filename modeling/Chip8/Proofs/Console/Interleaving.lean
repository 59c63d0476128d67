/-
Ticks with timer steps in between.

How many ticks there are from one timer step to the next depends on the speed.  Only one instruction
reads a timer, though.  As long as the program does not run through it, any number of ticks do the
same to everything but the timers, no matter how many timer steps come in between, and where.

* `tick_sameButTimers` : a tick does the same to machines with other timers;
* `Interleaved.course` : what any row of ticks, timer steps and signals does to the console;
* `ticked_of_interleaved` : it does the same to the machine as the ticks alone.
-/
import Chip8.Proofs.Console.Course
import Chip8.Proofs.Core.Periphery

namespace Chip8

namespace Core

/-- Two machines that are the same but for the timers, and for the mark that the display was drawn
on. -/
def SameButTimers (c d : Core) : Prop :=
  ∃ delay sound drawn, d = c.withPeriphery ⟨delay, sound, c.noise, drawn⟩

variable {c d e : Core}

theorem SameButTimers.refl : c.SameButTimers c :=
  ⟨c.registers.delay, c.registers.sound, c.drawn, rfl⟩

theorem SameButTimers.symm (h : c.SameButTimers d) : d.SameButTimers c := by
  obtain ⟨delay, sound, drawn, rfl⟩ := h
  exact ⟨c.registers.delay, c.registers.sound, c.drawn, rfl⟩

theorem SameButTimers.trans (h : c.SameButTimers d) (h' : d.SameButTimers e) :
    c.SameButTimers e := by
  obtain ⟨delay, sound, drawn, rfl⟩ := h
  obtain ⟨delay', sound', drawn', rfl⟩ := h'
  exact ⟨delay', sound', drawn', rfl⟩

theorem SameButTimers.instr (h : c.SameButTimers d) : d.instr = c.instr := by
  obtain ⟨delay, sound, drawn, rfl⟩ := h
  exact instr_withPeriphery

theorem SameButTimers.fault? (h : c.SameButTimers d) : d.fault? = c.fault? := by
  obtain ⟨delay, sound, drawn, rfl⟩ := h
  exact fault?_withPeriphery

theorem SameButTimers.countDown (h : c.SameButTimers d) :
    c.SameButTimers (d.withRegisters d.registers.countDown) := by
  obtain ⟨delay, sound, drawn, rfl⟩ := h
  exact ⟨_, _, drawn, rfl⟩

theorem SameButTimers.undrawn (h : c.SameButTimers d) :
    c.SameButTimers { d with drawn := false } := by
  obtain ⟨delay, sound, drawn, rfl⟩ := h
  exact ⟨delay, sound, false, rfl⟩

theorem SameButTimers.advanced (h : c.SameButTimers d) : c.advanced.SameButTimers d.advanced := by
  obtain ⟨delay, sound, drawn, rfl⟩ := h
  exact ⟨delay, sound, drawn, rfl⟩

/-- All instructions but one do the same whatever the timers are. -/
theorem execute_sameButTimers (h : c.SameButTimers d) {i : Instr} (hread : ∀ x, i ≠ .readDelay x) :
    (c.execute i).state.SameButTimers (d.execute i).state := by
  obtain ⟨delay, sound, drawn, rfl⟩ := h
  have hexec := execute_withPeriphery (c := c) (p := ⟨delay, sound, c.noise, drawn⟩) (i := i)
    (fun x hx => absurd hx (hread x)) (fun _ _ _ => rfl)
  -- As many random bytes are drawn on both sides.
  have hnoise : (c.stirred ⟨delay, sound, c.noise, drawn⟩ i).noise = (c.execute i).state.noise := by
    rw [stirred_noise, execute_noise]
  rw [hexec]
  generalize c.stirred ⟨delay, sound, c.noise, drawn⟩ i = p at hnoise ⊢
  refine ⟨p.delay, p.sound, p.drawn, ?_⟩
  rw [← hnoise]
  rfl

end Core

namespace Console

variable {c d : Console}

theorem tick_result (hc : c.core.WellFormed) : c.tick.result =
    match c.core.fault? with
    | some f => .error (.fault f)
    | none => .ok () := by
  cases hf : c.core.fault? with
  | some f => rw [tick_of_fault hc hf]
  | none => rw [tick_of_clear hc hf]

/-- Whether a tick faults, and how, does not depend on the timers. -/
theorem tick_result_sameButTimers (hc : c.core.WellFormed) (hd : d.core.WellFormed)
    (h : c.core.SameButTimers d.core) : d.tick.result = c.tick.result := by
  rw [tick_result hc, tick_result hd, h.fault?]

theorem tick_sameButTimers (hc : c.core.WellFormed) (hd : d.core.WellFormed)
    (h : c.core.SameButTimers d.core)
    (hread : c.tick.result = .ok () → ∀ x, c.core.instr ≠ .readDelay x) :
    c.tick.state.core.SameButTimers d.tick.state.core := by
  have hfault := h.fault?
  cases hf : c.core.fault? with
  | some f =>
    have hpc : d.core.registers.pc = c.core.registers.pc := by
      obtain ⟨delay, sound, drawn, hcore⟩ := h
      rw [hcore]
      rfl
    rw [tick_of_fault hc hf, tick_of_fault hd (hfault.trans hf), hpc]
    -- Behind a fault no mark is left.
    split
    · exact h.advanced.symm.undrawn.symm.undrawn
    · exact h.symm.undrawn.symm.undrawn
  | none =>
    rw [tick_of_clear hc hf] at hread
    rw [tick_of_clear hc hf, tick_of_clear hd (hfault.trans hf), h.instr]
    exact Core.execute_sameButTimers h.advanced (hread rfl)

/-! ### Rows of steps -/

/-- `d` comes from `c` by `n` ticks that succeed, with any timer steps and signals in between. -/
inductive Interleaved (c : Console) : Nat → Console → Prop
  | start : Interleaved c 0 c
  | tick {n : Nat} {d : Console} (h : Interleaved c n d) (hok : d.tick.result = .ok ()) :
      Interleaved c (n + 1) d.tick.state
  | timerStep {n : Nat} {d : Console} (h : Interleaved c n d) : Interleaved c n d.timerStep
  | signalDraw {n : Nat} {d : Console} (h : Interleaved c n d) : Interleaved c n d.signalDraw

/-- What it does to the console, its core apart. -/
structure Interleaved.Course (c : Console) (n : Nat) (d : Console) : Prop where
  wellFormed : d.core.WellFormed
  cycles : d.cycles = c.cycles + n
  running : d.running = c.running
  paused : d.paused = c.paused
  ticksPerFrame : d.ticksPerFrame = c.ticksPerFrame

theorem Interleaved.course (hc : c.core.WellFormed) {n : Nat} (h : Interleaved c n d) :
    Course c n d := by
  induction h with
  | start => exact ⟨hc, rfl, rfl, rfl, rfl⟩
  | timerStep _ ih =>
    exact ⟨ih.wellFormed.countDown, ih.cycles, ih.running, ih.paused, ih.ticksPerFrame⟩
  | signalDraw _ ih => exact ⟨ih.wellFormed, ih.cycles, ih.running, ih.paused, ih.ticksPerFrame⟩
  | tick _ hok ih =>
    obtain ⟨hstate, -⟩ := tick_state_of_ok ih.wellFormed hok
    refine ⟨tick_wellFormed ih.wellFormed, ?_, ?_, ?_, ?_⟩
    · rw [hstate, ← Nat.add_assoc, ← ih.cycles]
    · rw [hstate, ← ih.running]
    · rw [hstate, ← ih.paused]
    · rw [hstate, ← ih.ticksPerFrame]

/-- None of the first `n` ticks reads a timer, up to the first tick that fails. -/
def ReadsNoTimer (c : Console) (n : Nat) : Prop :=
  ∀ k < n, (∀ j ≤ k, (c.ticked j).tick.result = .ok ()) →
    ∀ x, (c.ticked k).core.instr ≠ .readDelay x

theorem ReadsNoTimer.mono {m n : Nat} (h : c.ReadsNoTimer n) (hmn : m ≤ n) : c.ReadsNoTimer m :=
  fun k hk => h k (Nat.lt_of_lt_of_le hk hmn)

/-- **Timer steps in between do not matter.**  A program that does not read a timer gets on in the
same way by ticks alone. -/
theorem ticked_of_interleaved {c' : Console} (hc : c.core.WellFormed) (hc' : c'.core.WellFormed)
    (hsame : c.core.SameButTimers c'.core) {n : Nat} (hread : c.ReadsNoTimer n)
    (h : Interleaved c' n d) :
    (∀ k < n, (c.ticked k).tick.result = .ok ()) ∧ (c.ticked n).core.SameButTimers d.core := by
  induction h with
  | start => exact ⟨fun k hk => absurd hk (Nat.not_lt_zero k), hsame⟩
  | timerStep _ ih => exact ⟨(ih hread).1, (ih hread).2.countDown⟩
  | signalDraw _ ih => exact ⟨(ih hread).1, (ih hread).2.undrawn⟩
  | @tick n d hd hok ih =>
    obtain ⟨hbefore, hd'⟩ := ih (hread.mono (Nat.le_succ n))
    have hwf := ticked_wellFormed hc n
    have hresult : (c.ticked n).tick.result = .ok () := by
      rw [← tick_result_sameButTimers hwf (hd.course hc').wellFormed hd']
      exact hok
    have hall : ∀ k < n + 1, (c.ticked k).tick.result = .ok () :=
      Nat.forall_lt_succ_right.mpr ⟨hbefore, hresult⟩
    refine ⟨hall, tick_sameButTimers hwf (hd.course hc').wellFormed hd' fun _ => ?_⟩
    exact hread n (Nat.lt_succ_self n) fun j hj => hall j (Nat.lt_succ_of_le hj)

end Console
end Chip8
