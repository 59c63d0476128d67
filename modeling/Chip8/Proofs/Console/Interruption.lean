/-
Frames that a fault ends.

A fault can come at any tick of a frame, before the timer step or after it.  It leaves what the
ticks before it have done, with the timer step among them exactly if half of the ticks were made,
and it passes on whatever they drew.  From then on the console is idle: frames do nothing until it
is started again, and then it goes on where the fault left the program counter.

* `interrupted` : what is left behind, field by field;
* `frame_error_iff` : a frame fails exactly if one of its ticks does, and so.
-/
import Chip8.Proofs.Console.Course

namespace Chip8

/-- The machine after a fetch, which does nothing where there is no word to fetch. -/
def Core.fetched (c : Core) : Core := if c.registers.pc < 0xFFF then c.advanced else c

theorem Core.fetched_sameScreen (c : Core) : c.SameScreen c.fetched := by
  unfold fetched
  split <;> exact ⟨rfl, rfl⟩

theorem Core.WellFormed.fetched {c : Core} (h : c.WellFormed) : c.fetched.WellFormed := by
  unfold Core.fetched
  split
  · next hpc => exact h.advanced hpc
  · exact h

/-- A fault names the instruction that it came from, or the address where there was none. -/
theorem Core.place_of_fault? {c : Core} {f : Fault} (hf : c.fault? = some f) :
    f.place = if c.registers.pc < 0xFFF then .instruction c.registers.pc c.word
      else .fetching c.registers.pc := by
  by_cases hpc : c.registers.pc < 0xFFF
  · rw [fault?_of_lt hpc] at hf
    obtain ⟨cause, -, rfl⟩ := Option.map_eq_some_iff.mp hf
    rw [if_pos hpc]
  · rw [fault?_of_le (Int.not_lt.mp hpc)] at hf
    rw [← Option.some_inj.mp hf, if_neg hpc]

namespace Console

variable {c : Console}

/-- What a frame from `c` on leaves behind in `d`, if the fault `f` ends it at tick number `j`. -/
structure Interrupted (c : Console) (j : Nat) (f : Fault) (d : Console) : Prop where
  /-- The tick that faults is the last one that is made.  One timer step was made before it if it
  belongs to the other half, and none if it does not. -/
  course : d = if j < c.half then c.ticked (j + 1)
    else (c.ticked c.half).timerStep.ticked (j + 1 - c.half)
  step : c.half ≤ j → OneStep (c.ticked c.half) (c.ticked c.half).timerStep
  /-- It does no more than stop the console behind the instruction. -/
  state : d = { c.inFrame j with core := (c.inFrame j).core.fetched }.stopped
  cycles : d.cycles = c.cycles + j
  tone : d.tone = if j < c.half then c.tone else c.soundsAtHalf
  running : d.running = false
  fault : (c.inFrame j).core.fault? = some f
  place : f.place = if (c.inFrame j).core.registers.pc < 0xFFF
    then .instruction (c.inFrame j).core.registers.pc (c.inFrame j).core.word
    else .fetching (c.inFrame j).core.registers.pc
  drawNeeded : d.drawNeeded = true ↔ c.drawNeeded = true ∨ c.core.drawn = true ∨
    ∃ k < j, (c.inFrame k).core.instr.draws = true
  drawn : d.core.drawn = false
  /-- Further frames change nothing. -/
  idle : ∀ n, d.obeyAll (List.replicate n .frame) = d
  /-- The console can be started again if there is a cartridge in it, as there was before. -/
  start : d.start.result = .ok () ↔ c.cartridge?.isSome = true
  /-- It then goes on from the program counter that the fault left. -/
  goesOn : ∀ s, d.start = .done s () →
    s.Active ∧ s.core = d.core ∧ (s.inFrame 0).core.registers.pc = d.core.registers.pc

/-- Frames of a console that does not run change nothing. -/
theorem obeyAll_frames_of_idle (h : c.running = false) (n : Nat) :
    c.obeyAll (List.replicate n .frame) = c := by
  have hframe : c.frame = .done c ⟨false, c.tone⟩ :=
    frame_of_not_active fun hactive => by
      rw [hactive.running] at h
      cases h
  have hstep : (c.obey .frame).state = c := by
    rw [obey_frame_state, hframe]
    rfl
  induction n with
  | zero => rfl
  | succ n ih =>
    rw [List.replicate_succ, obeyAll, List.foldl_cons, hstep]
    exact ih

theorem start_result (c : Console) : c.start.result = .ok () ↔ c.cartridge?.isSome = true := by
  rw [start]
  cases c.cartridge? with
  | none => simp [Outcome.failed]
  | some cartridge => simp [Outcome.done]

/-- Starting a console that is not paused lets it run from where it is. -/
theorem goesOn_of_start {d : Console} (hpaused : c.paused = false) (hstart : c.start = .done d ()) :
    d.Active ∧ d.core = c.core ∧ (d.inFrame 0).core.registers.pc = c.core.registers.pc := by
  rw [start] at hstart
  split at hstart
  · cases congrArg (·.result) hstart
  · obtain rfl : { c with running := true } = d := congrArg (·.state) hstart
    refine ⟨⟨rfl, hpaused⟩, rfl, ?_⟩
    rw [inFrame_zero]
    split <;> rfl

/-- What the first tick of a frame that fails leaves behind. -/
theorem interrupted (h : c.core.WellFormed) (hactive : c.Active) {j : Nat} {e : Error}
    (hstop : c.StopsAt j e) : ∃ f, e = .fault f ∧ Interrupted c j f c.frame.state := by
  have hcourse := course h hstop.before
  have herror := hstop.error
  have hframe := (frame_of_stopsAt hactive hstop).1
  cases hf : (c.inFrame j).core.fault? with
  | none =>
    -- Without a fault the tick would have succeeded.
    rw [tick_of_clear hcourse.wellFormed hf] at herror
    cases herror
  | some f =>
    have htick : (c.inFrame j).tick =
        ⟨{ c.inFrame j with core := (c.inFrame j).core.fetched }.stopped, .error (.fault f),
          #["Emulation halted: " ++ f.message]⟩ :=
      tick_of_fault hcourse.wellFormed hf
    rw [htick] at herror
    refine ⟨f, (Except.error.inj herror).symm, ?_⟩
    have hstate : c.frame.state =
        { c.inFrame j with core := (c.inFrame j).core.fetched }.stopped := by
      rw [hframe, htick]
    exact {
      course := by
        rw [hframe]
        by_cases hj : j < c.half
        · rw [if_pos hj, inFrame_of_lt hj]
          rfl
        · rw [if_neg hj, inFrame, if_neg hj, Nat.sub_add_comm (Nat.le_of_not_lt hj)]
          rfl
      step := fun _ => timerStep_oneStep (ticked_wellFormed h _)
      state := hstate
      cycles := by
        rw [hstate]
        exact hcourse.cycles
      tone := by
        rw [hstate]
        exact inFrame_tone h hstop.before
      running := by
        rw [hstate]
        rfl
      fault := hf
      place := Core.place_of_fault? hf
      drawNeeded := by
        rw [hstate]
        show ((c.inFrame j).drawNeeded || (c.inFrame j).core.fetched.drawn) = true ↔ _
        rw [(Core.fetched_sameScreen _).drawn, Bool.or_eq_true, hcourse.drawNeeded, hcourse.drawn]
      drawn := by
        rw [hstate]
        rfl
      idle := by
        rw [hstate]
        exact obeyAll_frames_of_idle rfl
      start := by
        rw [hstate, start_result, ← hcourse.cartridge?]
        rfl
      goesOn := fun s hs => by
        rw [hstate] at hs ⊢
        exact goesOn_of_start (hcourse.paused.trans hactive.paused) hs }

/-- **A fault in the middle of a frame** ends it there.  A frame of a running console fails with an
error exactly if that is how the first of its ticks to fail does, and what it leaves behind is what
the ticks before that one have left, with the console stopped. -/
theorem frame_error_iff (h : c.core.WellFormed) (hactive : c.Active) :
    (∀ e, c.frame.result = .error e ↔ ∃ j, c.StopsAt j e) ∧
      ∀ j e, c.StopsAt j e → ∃ f, e = .fault f ∧ Interrupted c j f c.frame.state := by
  refine ⟨fun e => ⟨fun he => ?_, ?_⟩, fun j e hstop => interrupted h hactive hstop⟩
  · rcases ok_or_stopsAt c with hok | ⟨j, e', hstop⟩
    · rw [(frame_of_ok hactive hok).2] at he
      cases he
    · rw [(frame_of_stopsAt hactive hstop).2] at he
      obtain rfl := Except.error.inj he
      exact ⟨j, hstop⟩
  · rintro ⟨j, hstop⟩
    exact (frame_of_stopsAt hactive hstop).2

/-- A program that clears the display and then returns from nowhere, at two ticks a frame and with
both timers above zero. -/
def clearThenReturn : Console :=
  let c := holding [0x00, 0xE0, 0x00, 0xEE]
  { c with
    core := c.core.withRegisters { c.core.registers with delay := 3, sound := 1 }
    ticksPerFrame := 2
    running := true
    cartridge? := some ⟨[0x00, 0xE0, 0x00, 0xEE], "", by decide⟩ }

/-- The fault comes at the second tick, so behind the timer step. -/
theorem frame_error_behind_half :
    clearThenReturn.core.WellFormed ∧ clearThenReturn.Active ∧ clearThenReturn.half = 1 ∧
      clearThenReturn.StopsAt 1 (.fault ⟨.stackUnderflow 0, .instruction 0x002 0x00EE⟩) ∧
      (∃ f, .fault ⟨.stackUnderflow 0, .instruction 0x002 0x00EE⟩ = Error.fault f ∧
        Interrupted clearThenReturn 1 f clearThenReturn.frame.state) ∧
      clearThenReturn.frame.state.core.registers.delay = 2 ∧
      clearThenReturn.frame.state.core.registers.sound = 0 := by
  have h : clearThenReturn.core.WellFormed := by decide +kernel
  have hactive : clearThenReturn.Active := ⟨by decide +kernel, by decide +kernel⟩
  have hstop : clearThenReturn.StopsAt 1
      (.fault ⟨.stackUnderflow 0, .instruction 0x002 0x00EE⟩) := by
    refine ⟨by decide, fun k hk => ?_, ?_⟩
    · obtain rfl : k = 0 := by omega
      exact congrArg Outcome.result
        (tick_of_clear (c := clearThenReturn.inFrame 0) (by decide +kernel) (by decide +kernel))
    · exact congrArg Outcome.result
        (tick_of_fault (c := clearThenReturn.inFrame 1) (by decide +kernel) (by decide +kernel))
  exact ⟨h, hactive, by decide, hstop, (frame_error_iff h hactive).2 _ _ hstop, by decide +kernel,
    by decide +kernel⟩

end Console
end Chip8
