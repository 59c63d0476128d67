/-
The course of a frame.

A frame makes half of its ticks, then the timer step, then the other ticks, and the first tick that
fails ends it.  `Console.inFrame` is the console before each of the ticks, so that what a frame does
can be said tick by tick: how many instructions were counted, whether one of them drew, and whether
the timer step came before or after.

* `ticks_of_ok`, `ticks_of_error` : ticks in a row, up to the first that fails;
* `timerStep_oneStep` : the timer step, in full;
* `course` : what the ticks that have been made so far have done to the console;
* `frame_of_ok`, `frame_of_stopsAt` : a whole frame, and a frame that ends early.
-/
import Chip8.Proofs.Console.Reach
import Chip8.Proofs.Core.Drawing

namespace Chip8.Console

variable {c : Console}

/-! ### Ticks in a row -/

/-- The console after a number of ticks. -/
def ticked (c : Console) : Nat → Console
  | 0 => c
  | n + 1 => (c.ticked n).tick.state

theorem ticked_tick (c : Console) (n : Nat) : c.tick.state.ticked n = c.ticked (n + 1) := by
  induction n with
  | zero => rfl
  | succ n ih =>
    rw [ticked, ih]
    rfl

theorem ticked_wellFormed (hc : c.core.WellFormed) (n : Nat) : (c.ticked n).core.WellFormed := by
  induction n with
  | zero => exact hc
  | succ n ih => exact tick_wellFormed ih

theorem ticksAfter_of_ok (log : Array String) (n : Nat)
    (hok : ∀ k < n, (c.ticked k).tick.result = .ok ()) :
    (ticksAfter log n c).result = .ok () ∧ (ticksAfter log n c).state = c.ticked n := by
  induction n generalizing log c with
  | zero => exact ⟨rfl, rfl⟩
  | succ n ih =>
    have hfirst : c.tick.result = .ok () := hok 0 (by omega)
    have hrest : ∀ k < n, (c.tick.state.ticked k).tick.result = .ok () := by
      intro k hk
      rw [ticked_tick]
      exact hok (k + 1) (by omega)
    simp only [ticksAfter, hfirst]
    rw [← ticked_tick]
    exact ih _ hrest

theorem ticksAfter_of_error (log : Array String) {n j : Nat} (hj : j < n)
    (hok : ∀ k < j, (c.ticked k).tick.result = .ok ()) {e : Error}
    (he : (c.ticked j).tick.result = .error e) :
    (ticksAfter log n c).result = .error e ∧ (ticksAfter log n c).state = c.ticked (j + 1) := by
  induction n generalizing log c j with
  | zero => omega
  | succ n ih =>
    cases j with
    | zero =>
      have hfirst : c.tick.result = .error e := he
      simp only [ticksAfter, hfirst]
      exact ⟨trivial, rfl⟩
    | succ j =>
      have hfirst : c.tick.result = .ok () := hok 0 (by omega)
      simp only [ticksAfter, hfirst]
      rw [← ticked_tick c (j + 1)]
      refine ih _ (by omega) (fun k hk => ?_) ?_
      · rw [ticked_tick]
        exact hok (k + 1) (by omega)
      · rw [ticked_tick]
        exact he

/-- Ticks that all succeed. -/
theorem ticks_of_ok {n : Nat} (hok : ∀ k < n, (c.ticked k).tick.result = .ok ()) :
    (c.ticks n).result = .ok () ∧ (c.ticks n).state = c.ticked n :=
  ticksAfter_of_ok #[] n hok

/-- The first tick that fails is the last one that is made. -/
theorem ticks_of_error {n j : Nat} (hj : j < n)
    (hok : ∀ k < j, (c.ticked k).tick.result = .ok ()) {e : Error}
    (he : (c.ticked j).tick.result = .error e) :
    (c.ticks n).result = .error e ∧ (c.ticks n).state = c.ticked (j + 1) :=
  ticksAfter_of_error #[] hj hok he

/-- Either all of some answers are successes, or there is a first error among them. -/
theorem ok_or_first_error (answer : Nat → Except Error Unit) (n : Nat) :
    (∀ k < n, answer k = .ok ()) ∨
      ∃ j < n, ∃ e, (∀ k < j, answer k = .ok ()) ∧ answer j = .error e := by
  induction n with
  | zero => exact .inl fun k hk => absurd hk (Nat.not_lt_zero k)
  | succ n ih =>
    rcases ih with hok | ⟨j, hj, e, hok, he⟩
    · cases hn : answer n with
      | error e => exact .inr ⟨n, Nat.lt_succ_self n, e, hok, hn⟩
      | ok _ =>
        refine .inl fun k hk => ?_
        rcases Nat.lt_succ_iff_lt_or_eq.mp hk with hlt | rfl
        · exact hok k hlt
        · exact hn
    · exact .inr ⟨j, Nat.lt_succ_of_lt hj, e, hok, he⟩

/-! ### The timer step -/

/-- What one timer step makes of `c`: timers above zero are one lower in `d`, the sound timer
decides about the tone, and nothing else has changed. -/
structure OneStep (c d : Console) : Prop where
  delay : d.core.registers.delay = max 0 (c.core.registers.delay - 1)
  sound : d.core.registers.sound = max 0 (c.core.registers.sound - 1)
  tone : d.tone = true ↔ 0 < d.core.registers.sound
  rest : ∃ delay sound tone,
    d = { c with
      core := c.core.withRegisters { c.core.registers with delay := delay, sound := sound }
      tone := tone }

theorem timerStep_oneStep (h : c.core.WellFormed) : OneStep c c.timerStep where
  delay := Registers.stepped_eq_max h.delay.1
  sound := Registers.stepped_eq_max h.sound.1
  tone := decide_eq_true_iff
  rest := ⟨_, _, _, rfl⟩

/-! ### The ticks of a frame -/

/-- The console runs and is not paused, so that frames do something. -/
structure Active (c : Console) : Prop where
  running : c.running = true
  paused : c.paused = false

theorem active_iff : c.Active ↔ (c.running && !c.paused) = true := by
  rw [Bool.and_eq_true, Bool.not_eq_true']
  exact ⟨fun h => ⟨h.running, h.paused⟩, fun h => ⟨h.1, h.2⟩⟩

/-- How many ticks a frame makes, if none of them fails. -/
def frameTicks (c : Console) : Nat := c.ticksPerFrame.toNat

/-- How many of them come before the timer step. -/
def half (c : Console) : Nat := (c.ticksPerFrame / 2).toNat

/-- How many of them come after it. -/
def otherHalf (c : Console) : Nat := (c.ticksPerFrame - c.ticksPerFrame / 2).toNat

theorem half_add_otherHalf (c : Console) : c.half + c.otherHalf = c.frameTicks := by
  unfold half otherHalf frameTicks
  omega

/-- The console in a frame before the tick with number `k`. -/
def inFrame (c : Console) (k : Nat) : Console :=
  if k < c.half then c.ticked k else (c.ticked c.half).timerStep.ticked (k - c.half)

theorem inFrame_of_lt {k : Nat} (hk : k < c.half) : c.inFrame k = c.ticked k := if_pos hk

theorem inFrame_add (c : Console) (k : Nat) :
    c.inFrame (c.half + k) = (c.ticked c.half).timerStep.ticked k := by
  rw [inFrame, if_neg (by omega), Nat.add_sub_cancel_left]

theorem inFrame_zero (c : Console) : c.inFrame 0 = if c.half = 0 then c.timerStep else c := by
  by_cases h0 : c.half = 0
  · rw [if_pos h0, inFrame, if_neg (by omega), h0]
    rfl
  · rw [if_neg h0, inFrame_of_lt (by omega)]
    rfl

/-- From one tick to the next; the timer step comes in between if half of the ticks are made. -/
theorem inFrame_succ (c : Console) (k : Nat) : c.inFrame (k + 1) =
    if k + 1 = c.half then (c.inFrame k).tick.state.timerStep else (c.inFrame k).tick.state := by
  rcases Nat.lt_trichotomy (k + 1) c.half with h | h | h
  · rw [if_neg (by omega), inFrame_of_lt h, inFrame_of_lt (by omega)]
    rfl
  · have hstep := inFrame_add c 0
    rw [Nat.add_zero, ← h] at hstep
    rw [if_pos h, hstep, inFrame_of_lt (by omega)]
    rfl
  · obtain ⟨m, rfl⟩ : ∃ m, k = c.half + m := ⟨k - c.half, by omega⟩
    rw [if_neg (by omega), Nat.add_assoc, inFrame_add, inFrame_add]
    rfl

/-- A tick that succeeds changes the core and counts, and leaves the rest of the console alone. -/
theorem tick_state_of_ok (h : c.core.WellFormed) (hok : c.tick.result = .ok ()) :
    c.tick.state = { c with core := c.tick.state.core, cycles := c.cycles + 1 } ∧
      c.tick.state.core.drawn = (c.core.drawn || c.core.instr.draws) := by
  have hf := fault?_of_ok h hok
  obtain ⟨hpc, hclear⟩ := Core.fault?_eq_none_iff.mp hf
  rw [← Core.obstacle?_advanced] at hclear
  rw [tick_of_clear h hf]
  exact ⟨rfl, Core.execute_drawn_of_clear (h.advanced hpc) hclear⟩

/-- Whether the sound timer is above zero right after the timer step of a frame. -/
def soundsAtHalf (c : Console) : Bool :=
  decide (0 < (c.ticked c.half).countDown.core.registers.sound)

/-- What the first `k` ticks of a frame from `c` on, if they succeed, leave behind in `d`. -/
structure Course (c : Console) (k : Nat) (d : Console) : Prop where
  wellFormed : d.core.WellFormed
  cycles : d.cycles = c.cycles + k
  running : d.running = c.running
  paused : d.paused = c.paused
  cartridge? : d.cartridge? = c.cartridge?
  drawNeeded : d.drawNeeded = c.drawNeeded
  drawn : d.core.drawn = true ↔
    c.core.drawn = true ∨ ∃ i < k, (c.inFrame i).core.instr.draws = true

theorem Course.timerStep {k : Nat} {d : Console} (h : Course c k d) : Course c k d.timerStep :=
  ⟨h.wellFormed.countDown, h.cycles, h.running, h.paused, h.cartridge?, h.drawNeeded, h.drawn⟩

theorem Course.tick {k : Nat} (h : Course c k (c.inFrame k))
    (hok : (c.inFrame k).tick.result = .ok ()) : Course c (k + 1) (c.inFrame k).tick.state := by
  obtain ⟨hstate, hdrawn⟩ := tick_state_of_ok h.wellFormed hok
  refine ⟨tick_wellFormed h.wellFormed, ?_, ?_, ?_, ?_, ?_, ?_⟩
  · rw [hstate, ← Nat.add_assoc, ← h.cycles]
  · rw [hstate, ← h.running]
  · rw [hstate, ← h.paused]
  · rw [hstate, ← h.cartridge?]
  · rw [hstate, ← h.drawNeeded]
  · rw [hdrawn, Bool.or_eq_true, h.drawn, Nat.exists_lt_succ_right, or_assoc]

/-- What has become of the console by the tick with number `k`. -/
theorem course (h : c.core.WellFormed) {k : Nat}
    (hok : ∀ i < k, (c.inFrame i).tick.result = .ok ()) : Course c k (c.inFrame k) := by
  induction k with
  | zero =>
    have hstart : Course c 0 c :=
      ⟨h, rfl, rfl, rfl, rfl, rfl, by simp⟩
    rw [inFrame_zero]
    split
    · exact hstart.timerStep
    · exact hstart
  | succ k ih =>
    -- One more tick, and the timer step behind it if that makes half of them.
    have htick := (ih fun i hi => hok i (Nat.lt_succ_of_lt hi)).tick (hok k (Nat.lt_succ_self k))
    rw [inFrame_succ]
    split
    · exact htick.timerStep
    · exact htick

/-- The tone changes at the timer step, and at no other time in a frame. -/
theorem inFrame_tone (h : c.core.WellFormed) {k : Nat}
    (hok : ∀ i < k, (c.inFrame i).tick.result = .ok ()) :
    (c.inFrame k).tone = if k < c.half then c.tone else c.soundsAtHalf := by
  induction k with
  | zero =>
    rw [inFrame_zero]
    by_cases h0 : c.half = 0
    · rw [if_pos h0, if_neg (by omega), soundsAtHalf, h0]
      rfl
    · rw [if_neg h0, if_pos (by omega)]
  | succ k ih =>
    have hok' : ∀ i < k, (c.inFrame i).tick.result = .ok () :=
      fun i hi => hok i (Nat.lt_succ_of_lt hi)
    obtain ⟨hstate, -⟩ :=
      tick_state_of_ok (course h hok').wellFormed (hok k (Nat.lt_succ_self k))
    have htick : (c.inFrame k).tick.state.tone = (c.inFrame k).tone := by rw [hstate]
    rw [inFrame_succ]
    rcases Nat.lt_trichotomy (k + 1) c.half with hk | hk | hk
    · rw [if_neg (by omega), htick, ih hok', if_pos (by omega), if_pos hk]
    · rw [if_pos hk, if_neg (by omega), inFrame_of_lt (by omega), soundsAtHalf, ← hk]
      rfl
    · rw [if_neg (by omega), htick, ih hok', if_neg (by omega), if_neg (by omega)]

/-! ### Whole frames -/

theorem frame_of_not_active (h : ¬ c.Active) : c.frame = .done c ⟨false, c.tone⟩ := by
  have hidle : (!c.running || c.paused) = true := by
    rw [active_iff, Bool.not_eq_true, ← Bool.not_eq_true', Bool.not_and, Bool.not_not] at h
    exact h
  rw [frame, if_pos hidle]

theorem frame_of_active (h : c.Active) : c.frame =
    (c.ticks c.half).andThen fun () c₁ => (c₁.timerStep.ticks c.otherHalf).andThen fun () c₂ =>
      .done c₂.signalDraw ⟨c₂.core.drawn, c₂.tone⟩ := by
  rw [frame, if_neg (by simp [h.running, h.paused])]
  rfl

/-- A frame in which no tick fails. -/
theorem frame_of_ok (hactive : c.Active)
    (hok : ∀ k < c.frameTicks, (c.inFrame k).tick.result = .ok ()) :
    c.frame.state = (c.inFrame c.frameTicks).signalDraw ∧
      c.frame.result =
        .ok ⟨(c.inFrame c.frameTicks).core.drawn, (c.inFrame c.frameTicks).tone⟩ := by
  have hcount := half_add_otherHalf c
  -- Both rows of ticks run through, each from where the frame stands by then.
  obtain ⟨hresult₁, hstate₁⟩ := ticks_of_ok (c := c) (n := c.half) fun k hk => by
    rw [← inFrame_of_lt hk]
    exact hok k (by omega)
  obtain ⟨hresult₂, hstate₂⟩ :=
    ticks_of_ok (c := (c.ticked c.half).timerStep) (n := c.otherHalf) fun k hk => by
      rw [← inFrame_add]
      exact hok _ (by omega)
  rw [← hcount, inFrame_add, ← hstate₂, frame_of_active hactive, Outcome.andThen]
  simp only [hresult₁, hstate₁, Outcome.andThen, hresult₂]
  exact ⟨rfl, rfl⟩

/-- The tick with number `j` of a frame is the first that fails, and fails with `e`. -/
structure StopsAt (c : Console) (j : Nat) (e : Error) : Prop where
  lt : j < c.frameTicks
  before : ∀ k < j, (c.inFrame k).tick.result = .ok ()
  error : (c.inFrame j).tick.result = .error e

/-- A frame ends with the first tick that fails. -/
theorem frame_of_stopsAt (hactive : c.Active) {j : Nat} {e : Error} (hstop : c.StopsAt j e) :
    c.frame.state = (c.inFrame j).tick.state ∧ c.frame.result = .error e := by
  have hcount := half_add_otherHalf c
  have hlt := hstop.lt
  have hbefore := hstop.before
  have herror := hstop.error
  rw [frame_of_active hactive, Outcome.andThen]
  by_cases hj : j < c.half
  · -- The timer step is not reached.
    rw [inFrame_of_lt hj] at herror ⊢
    obtain ⟨hresult, hstate⟩ := ticks_of_error hj (fun k hk => by
      rw [← inFrame_of_lt (Nat.lt_trans hk hj)]
      exact hbefore k hk) herror
    simp only [hresult, hstate]
    exact ⟨rfl, trivial⟩
  · -- It is behind the first row of ticks, and the second row ends with it.
    obtain ⟨m, rfl⟩ : ∃ m, j = c.half + m := ⟨j - c.half, by omega⟩
    obtain ⟨hresult₁, hstate₁⟩ := ticks_of_ok (c := c) (n := c.half) fun k hk => by
      rw [← inFrame_of_lt hk]
      exact hbefore k (by omega)
    rw [inFrame_add] at herror ⊢
    obtain ⟨hresult₂, hstate₂⟩ := ticks_of_error (n := c.otherHalf) (j := m) (by omega)
      (fun k hk => by
        rw [← inFrame_add]
        exact hbefore _ (by omega)) herror
    simp only [hresult₁, hstate₁, Outcome.andThen, hresult₂, hstate₂]
    exact ⟨rfl, trivial⟩

/-- No tick of a frame fails, or there is a first one that does. -/
theorem ok_or_stopsAt (c : Console) :
    (∀ k < c.frameTicks, (c.inFrame k).tick.result = .ok ()) ∨ ∃ j e, c.StopsAt j e := by
  rcases ok_or_first_error (fun k => (c.inFrame k).tick.result) c.frameTicks with
    hok | ⟨j, hj, e, hok, he⟩
  · exact .inl hok
  · exact .inr ⟨j, e, hj, hok, he⟩

end Chip8.Console
