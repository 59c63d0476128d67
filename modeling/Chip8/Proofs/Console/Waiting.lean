/-
Waiting for a key.

A console that is set to wait comes back to the same instruction tick by tick, for as long as none
of the keys 0 to 14 is down.  Such a tick is a fixed point of the machine: fetching moves the
program counter on, and the instruction moves it back.  So frames go by in which only the timers go
down and the ticks are counted, and the first tick behind a key that went down ends the wait.

* `tick_of_unanswered`, `tick_of_answered` : both ticks, in full;
* `frame_of_unanswered` : a frame in which no key comes;
* `stalls_until_key` : any number of them, and the tick that ends the wait.
-/
import Chip8.Proofs.Console.Speed
import Chip8.Proofs.Console.Steering

namespace Chip8

theorem Keys.first?_eq_some_iff {keys : Keys} {key : Nat} : keys.first? = some key ↔
    key < 15 ∧ keys.down key = true ∧ ∀ other : Nat, other < key → keys.down other = false := by
  rw [first?, List.find?_range_eq_some]
  simp only [List.mem_range, Bool.not_eq_true']
  constructor
  · rintro ⟨hdown, hkey, hlowest⟩
    exact ⟨hkey, hdown, hlowest⟩
  · rintro ⟨hkey, hdown, hlowest⟩
    exact ⟨hdown, hkey, hlowest⟩

/-- If some of the keys 0 to 14 are down, there is a lowest of them. -/
theorem Keys.exists_first? {keys : Keys} (hdown : ∃ key : Nat, key < 15 ∧ keys.down key = true) :
    ∃ key, keys.first? = some key := by
  cases hfirst : keys.first? with
  | some key => exact ⟨key, rfl⟩
  | none =>
    obtain ⟨key, hkey, htrue⟩ := hdown
    rw [first?_eq_none_iff.mp hfirst key hkey] at htrue
    cases htrue

theorem Instr.decode_of_hasByte_awaitKey {w : Word} (hw : w.HasByte 0xF 0x0A) :
    decode w = .awaitKey w.x := by
  rw [decode_of_family_fifteen hw.1, decodeTransfer]
  simp [hw.2]

namespace Registers

/-- Both timers `n` steps down, or at zero. -/
def lowered (r : Registers) (n : Nat) : Registers :=
  { r with delay := max 0 (r.delay - n), sound := max 0 (r.sound - n) }

theorem stepped_max_sub (z : Int) (n : Nat) :
    stepped (max 0 (z - n)) = max 0 (z - (n + 1 : Nat)) := by
  rw [stepped_eq_max (Int.le_max_left 0 _)]
  omega

variable {r : Registers}

theorem lowered_zero (h : r.InRange) : r.lowered 0 = r := by
  have hdelay : max 0 (r.delay - (0 : Nat)) = r.delay := by
    have := h.delay
    omega
  have hsound : max 0 (r.sound - (0 : Nat)) = r.sound := by
    have := h.sound
    omega
  rw [lowered, hdelay, hsound]

theorem inRange_lowered (h : r.InRange) (n : Nat) : (r.lowered n).InRange := by
  have hdelay := h.delay
  have hsound := h.sound
  refine ⟨h.v, h.i, h.pc, h.sp, ?_, ?_⟩
  · show 0 ≤ max 0 (r.delay - n) ∧ max 0 (r.delay - n) < 256
    omega
  · show 0 ≤ max 0 (r.sound - n) ∧ max 0 (r.sound - n) < 256
    omega

theorem countDown_lowered (r : Registers) (n : Nat) :
    (r.lowered n).countDown = r.lowered (n + 1) := by
  simp only [countDown, lowered, stepped_max_sub]

end Registers

namespace Console

/-- A running console at an instruction that waits for a key, with no drawing left to signal. -/
structure AtWait (c : Console) : Prop where
  wellFormed : c.core.WellFormed
  running : c.running = true
  paused : c.paused = false
  waitForKey : c.core.waitForKey = true
  pc_le : c.core.registers.pc ≤ 0xFFE
  word : c.core.word.HasByte 0xF 0x0A
  drawn : c.core.drawn = false

/-- None of the keys that are waited for is down. -/
def Unanswered (c : Console) : Prop := ∀ key : Nat, key < 15 → c.core.keys.down key = false

/-- The console with other keys down. -/
def withKeys (c : Console) (keys : Keys) : Console :=
  { c with core := { c.core with keys := keys } }

/-- The console after `n` frames in which nothing has happened but that the timers went down and the
ticks were counted. -/
def stalled (c : Console) (n : Nat) : Console :=
  { c with
    core := c.core.withRegisters (c.core.registers.lowered n)
    tone := decide (0 < (c.core.registers.lowered n).sound)
    cycles := c.cycles + n * c.ticksPerFrame.toNat }

variable {c : Console}

namespace AtWait

theorem active (h : c.AtWait) : c.Active := ⟨h.running, h.paused⟩

theorem instr (h : c.AtWait) : c.core.instr = .awaitKey c.core.word.x :=
  Instr.decode_of_hasByte_awaitKey h.word

theorem fault? (h : c.AtWait) : c.core.fault? = none := by
  have hpc := h.pc_le
  refine Core.fault?_eq_none_iff.mpr ⟨by omega, ?_⟩
  rw [h.instr]
  rfl

theorem withKeys (h : c.AtWait) (keys : Keys) : (c.withKeys keys).AtWait :=
  ⟨h.wellFormed, h.running, h.paused, h.waitForKey, h.pc_le, h.word, h.drawn⟩

theorem counted (h : c.AtWait) (n : Nat) : { c with cycles := c.cycles + n }.AtWait :=
  ⟨h.wellFormed, h.running, h.paused, h.waitForKey, h.pc_le, h.word, h.drawn⟩

theorem timerStep (h : c.AtWait) : c.timerStep.AtWait :=
  ⟨h.wellFormed.countDown, h.running, h.paused, h.waitForKey, h.pc_le, h.word, h.drawn⟩

theorem stalled (h : c.AtWait) (n : Nat) (tone : Bool) :
    { c.stalled n with tone := tone }.AtWait :=
  ⟨Registers.inRange_lowered h.wellFormed n, h.running, h.paused, h.waitForKey, h.pc_le, h.word,
    h.drawn⟩

end AtWait

/-! ### Ticks -/

/-- A tick of a console at a wait does what waiting does behind the fetch. -/
theorem tick_of_atWait (h : c.AtWait) : c.tick.result = .ok () ∧ c.tick.state =
    { c with core := c.core.advanced.awaitKey c.core.word.x, cycles := c.cycles + 1 } := by
  rw [tick_of_clear h.wellFormed h.fault?, h.instr]
  exact ⟨rfl, rfl⟩

/-- Without a key the machine is back where it was. -/
theorem tick_of_unanswered (h : c.AtWait) (hup : c.Unanswered) :
    c.tick.result = .ok () ∧ c.tick.state = { c with cycles := c.cycles + 1 } := by
  obtain ⟨hresult, hstate⟩ := tick_of_atWait h
  have hkeys : c.core.advanced.keys.first? = none := Keys.first?_eq_none_iff.mpr hup
  have hback : (c.core.registers.pc + 2 - 2) % 65536 = c.core.registers.pc := by
    have := h.wellFormed.pc
    omega
  have hcore : c.core.advanced.awaitKey c.core.word.x = c.core := by
    rw [Core.awaitKey_of_none _ hkeys h.waitForKey]
    show c.core.jump ((c.core.registers.pc + 2 - 2) % 65536) = c.core
    rw [hback]
    rfl
  rw [hcore] at hstate
  exact ⟨hresult, hstate⟩

/-- The lowest of the keys that are down is taken. -/
theorem tick_of_answered (h : c.AtWait) {key : Nat} (hkey : c.core.keys.first? = some key) :
    c.tick.result = .ok () ∧ c.tick.state = { c with
      core := c.core.withRegisters
        { c.core.registers.put c.core.word.x key with pc := c.core.registers.pc + 2 }
      cycles := c.cycles + 1 } := by
  obtain ⟨hresult, hstate⟩ := tick_of_atWait h
  have hadvanced : c.core.advanced.keys.first? = some key := hkey
  rw [Core.awaitKey, hadvanced] at hstate
  exact ⟨hresult, hstate⟩

/-- Ticks in a row are counted, and that is all. -/
theorem ticked_of_unanswered (h : c.AtWait) (hup : c.Unanswered) (n : Nat) :
    c.ticked n = { c with cycles := c.cycles + n } := by
  induction n with
  | zero => rfl
  | succ n ih =>
    rw [ticked, ih, (tick_of_unanswered (h.counted n) hup).2]
    rfl

/-- None of them fails. -/
theorem tick_ticked_of_unanswered (h : c.AtWait) (hup : c.Unanswered) (n : Nat) :
    (c.ticked n).tick.result = .ok () := by
  rw [ticked_of_unanswered h hup]
  exact (tick_of_unanswered (h.counted n) hup).1

/-! ### Frames -/

/-- In a frame, too, there is nothing besides the ticks but the timer step. -/
theorem inFrame_of_unanswered (h : c.AtWait) (hup : c.Unanswered) (k : Nat) :
    (c.inFrame k).tick.result = .ok () ∧
      c.inFrame (c.half + k) = { c.timerStep with cycles := c.cycles + (c.half + k) } := by
  have hstep : (c.ticked c.half).timerStep.AtWait ∧ (c.ticked c.half).timerStep.Unanswered := by
    rw [ticked_of_unanswered h hup]
    exact ⟨(h.counted c.half).timerStep, hup⟩
  constructor
  · rw [inFrame]
    split
    · exact tick_ticked_of_unanswered h hup k
    · exact tick_ticked_of_unanswered hstep.1 hstep.2 (k - c.half)
  · rw [inFrame_add, ticked_of_unanswered hstep.1 hstep.2, ticked_of_unanswered h hup,
      ← Nat.add_assoc]
    rfl

/-- There is nothing to signal where nothing was drawn. -/
theorem signalDraw_of_not_drawn (h : c.core.drawn = false) : c.signalDraw = c := by
  rw [signalDraw, h, Bool.or_false, ← h]

/-- A frame in which no key comes. -/
theorem frame_of_unanswered (h : c.AtWait) (hup : c.Unanswered) :
    c.frame.state = { c.timerStep with cycles := c.cycles + c.frameTicks } ∧
      c.frame.result = .ok ⟨false, c.timerStep.tone⟩ := by
  have hend := (inFrame_of_unanswered h hup c.otherHalf).2
  rw [half_add_otherHalf] at hend
  obtain ⟨hstate, hresult⟩ := frame_of_ok h.active fun k _ => (inFrame_of_unanswered h hup k).1
  rw [hend] at hstate hresult
  constructor
  · rw [hstate, signalDraw_of_not_drawn]
    exact h.drawn
  · rw [hresult]
    show Except.ok (Frame.mk c.core.drawn c.timerStep.tone) = _
    rw [h.drawn]

/-- The timer step of a frame takes a wait from one frame to the next. -/
theorem timerStep_stalled (c : Console) (n : Nat) (tone : Bool) :
    { { c.stalled n with tone := tone }.timerStep with
      cycles := (c.stalled n).cycles + c.frameTicks } = c.stalled (n + 1) := by
  have htimers : (c.stalled n).core.registers.countDown = c.core.registers.lowered (n + 1) :=
    Registers.countDown_lowered _ n
  have hcycles : (c.stalled n).cycles + c.frameTicks = (c.stalled (n + 1)).cycles := by
    simp only [stalled, frameTicks, Nat.add_mul, Nat.one_mul, Nat.add_assoc]
  rw [hcycles, timerStep, countDown]
  simp only [htimers]
  rfl

/-- One more frame of a wait, whether the tone sounded before or not. -/
theorem frame_of_stalled (h : c.AtWait) (hup : c.Unanswered) (n : Nat) (tone : Bool) :
    { c.stalled n with tone := tone }.frame.state = c.stalled (n + 1) ∧
      { c.stalled n with tone := tone }.frame.result = .ok ⟨false, (c.stalled (n + 1)).tone⟩ := by
  obtain ⟨hstate, hresult⟩ := frame_of_unanswered (h.stalled n tone) hup
  rw [← timerStep_stalled c n tone]
  exact ⟨hstate, hresult⟩

/-- By `n` frames the console has stalled, and all that can be left of what it was before is the
tone. -/
theorem framed_of_unanswered (h : c.AtWait) (hup : c.Unanswered) (n : Nat) :
    ∃ tone, c.framed n = { c.stalled n with tone := tone } := by
  induction n with
  | zero =>
    refine ⟨c.tone, ?_⟩
    have hcycles : c.cycles + 0 * c.ticksPerFrame.toNat = c.cycles := by simp
    rw [framed, stalled, Registers.lowered_zero h.wellFormed, hcycles]
    rfl
  | succ n ih =>
    obtain ⟨tone, hn⟩ := ih
    rw [framed, hn, (frame_of_stalled h hup n tone).1]
    exact ⟨_, rfl⟩

/-- **A console that waits for a key stands still.**  As long as none of the keys 0 to 14 is down,
any number of frames go by, at any speed, without a fault and without a drawing, and nothing changes
but the timers, the tone that goes with one of them, and the count of instructions.  As soon as some
of these keys are down, the next tick takes the lowest and goes on behind the instruction. -/
theorem stalls_until_key (h : c.AtWait) (hup : c.Unanswered) :
    (∀ n, (c.framed n).frame.result = .ok ⟨false, (c.stalled (n + 1)).tone⟩ ∧
      c.framed (n + 1) = c.stalled (n + 1)) ∧
    ∀ n (keys : Keys), (∃ key : Nat, key < 15 ∧ keys.down key = true) →
      ∃ key : Nat, (key < 15 ∧ keys.down key = true ∧
          ∀ other : Nat, other < key → keys.down other = false) ∧
        let d := (c.framed n).withKeys keys
        d.tick.result = .ok () ∧ d.tick.state = { d with
          core := d.core.withRegisters
            { d.core.registers.put c.core.word.x key with pc := c.core.registers.pc + 2 }
          cycles := d.cycles + 1 } := by
  constructor
  · intro n
    obtain ⟨tone, hn⟩ := framed_of_unanswered h hup n
    obtain ⟨hstate, hresult⟩ := frame_of_stalled h hup n tone
    rw [framed, hn]
    exact ⟨hresult, hstate⟩
  · intro n keys hdown
    obtain ⟨tone, hn⟩ := framed_of_unanswered h hup n
    obtain ⟨key, hkey⟩ := Keys.exists_first? hdown
    have hwait := (h.stalled n tone).withKeys keys
    rw [hn]
    exact ⟨key, Keys.first?_eq_some_iff.mp hkey, tick_of_answered hwait hkey⟩

/-- A console that counts both timers down from 2, and waits for a key in V3 at three ticks a frame,
with the key F down. -/
def expectant : Console :=
  (new 3 true (.cycle #[])).obeyAll
    [.load [0x60, 0x02, 0xF0, 0x15, 0xF0, 0x18, 0xF3, 0x0A], .start, .press 0xF, .tick, .tick,
      .tick]

/-- The key F is not waited for.  Behind three frames of three ticks the timers are at zero, and of
the keys 9 and 5 the lower one is taken. -/
theorem stalls_until_key_nine_and_five :
    expectant.AtWait ∧ expectant.Unanswered ∧ expectant.core.keys.down 0xF = true ∧
      (expectant.framed 3).core.registers =
        { expectant.core.registers with delay := 0, sound := 0 } ∧
      (expectant.framed 3).tone = false ∧ (expectant.framed 3).cycles = 12 ∧
      ((expectant.framed 3).withKeys ((Keys.allUp.press 9).press 5)).tick.state.core.v 3 = 5 := by
  obtain ⟨hnone, hwellFormed, hrunning, hpaused, hwaitForKey, hpc, hword, hdrawn⟩ :
      expectant.core.keys.first? = none ∧ expectant.core.WellFormed ∧ expectant.running = true ∧
        expectant.paused = false ∧ expectant.core.waitForKey = true ∧
        expectant.core.registers.pc ≤ 0xFFE ∧ expectant.core.word.HasByte 0xF 0x0A ∧
        expectant.core.drawn = false := by
    decide +kernel
  have h : expectant.AtWait := ⟨hwellFormed, hrunning, hpaused, hwaitForKey, hpc, hword, hdrawn⟩
  have hup : expectant.Unanswered := Keys.first?_eq_none_iff.mp hnone
  obtain ⟨hframes, htick⟩ := stalls_until_key h hup
  have hthree : expectant.framed 3 = expectant.stalled 3 := (hframes 2).2
  obtain ⟨key, hlowest, -, hstate⟩ := htick 3 ((Keys.allUp.press 9).press 5) ⟨5, by decide⟩
  have hfive : ((Keys.allUp.press 9).press 5).first? = some 5 := by decide
  obtain rfl : key = 5 :=
    Option.some_inj.mp ((Keys.first?_eq_some_iff.mpr hlowest).symm.trans hfive)
  refine ⟨h, hup, ?_⟩
  rw [hstate, hthree]
  decide +kernel

end Console
end Chip8
