/-
The two signals of a frame: that something was drawn, and that the tone sounds.

A frame in which no tick fails makes all of its ticks around one timer step.  It signals a drawing
if one was pending or if one of its ticks drew.  The tone that it signals was decided at the timer
step, so a sound timer that is set behind it is heard a frame later at the earliest.

* `completed` : what such a frame leaves behind, field by field;
* `obey_tone` : what each command does to the tone;
* `frame_signals` : the signals of frames of all consoles, over all histories.
-/
import Chip8.Proofs.Console.Course

namespace Chip8.Console

variable {c : Console}

/-! ### Frames in which no tick fails -/

/-- What such a frame from `c` on, with the signals `f`, leaves behind in `d`. -/
structure Completed (c : Console) (f : Frame) (d : Console) : Prop where
  course : d = ((c.ticked c.half).timerStep.ticked c.otherHalf).signalDraw
  step : OneStep (c.ticked c.half) (c.ticked c.half).timerStep
  count : c.half + c.otherHalf = c.frameTicks
  cycles : d.cycles = c.cycles + c.frameTicks
  draw : f.draw = true ↔
    c.core.drawn = true ∨ ∃ k < c.frameTicks, (c.inFrame k).core.instr.draws = true
  drawNeeded : d.drawNeeded = (c.drawNeeded || f.draw)
  drawn : d.core.drawn = false
  tone : f.tone = c.soundsAtHalf
  toneKept : d.tone = f.tone

theorem completed (h : c.core.WellFormed) (hactive : c.Active)
    (hok : ∀ k < c.frameTicks, (c.inFrame k).tick.result = .ok ()) :
    ∃ f, c.frame.result = .ok f ∧ Completed c f c.frame.state := by
  have hcount := half_add_otherHalf c
  have hcourse := course h hok
  obtain ⟨hstate, hresult⟩ := frame_of_ok hactive hok
  refine ⟨_, hresult, ?_⟩
  rw [hstate]
  exact {
    course := by rw [← hcount, inFrame_add]
    step := timerStep_oneStep (ticked_wellFormed h _)
    count := hcount
    cycles := hcourse.cycles
    draw := hcourse.drawn
    drawNeeded := by
      rw [← hcourse.drawNeeded]
      rfl
    drawn := rfl
    tone := (inFrame_tone h hok).trans (if_neg (by omega))
    toneKept := rfl }

/-! ### The tone over a history -/

/-- What decides about the tone. -/
inductive ToneMark where
  /-- Starting over from a cartridge. -/
  | boot
  /-- A timer step, and the sound timer right behind it. -/
  | timerStep (sound : Int)

/-- Whether the sound timer was above zero behind the last timer step since the last start, if there
was one.  The newest mark comes first. -/
def toneAfter : List ToneMark → Bool
  | .timerStep sound :: _ => decide (0 < sound)
  | _ => false

/-- A frame gets as far as its timer step. -/
def reachesStep (c : Console) : Bool := c.running && !c.paused && (c.ticks c.half).result.isOk

/-- What a command has to do with the tone. -/
def toneMarks (c : Console) : Command → List ToneMark
  | .load bytes => if (c.load bytes).result.isOk then [.boot] else []
  | .insert cartridge => if (c.insert cartridge).result.isOk then [.boot] else []
  | .reset => if c.cartridge?.isSome then [.boot] else []
  | .frame =>
    if c.reachesStep then [.timerStep (c.ticks c.half).state.countDown.core.registers.sound] else []
  | _ => []

/-- A tick leaves the tone alone, one that fails too. -/
theorem tick_tone (c : Console) : c.tick.state.tone = c.tone := by
  obtain ⟨drawn, running, drawNeeded, -, h⟩ := c.tick_changes
  rw [h]

theorem ticks_tone (c : Console) (n : Nat) : (c.ticks n).state.tone = c.tone :=
  ticks_keep (P := fun d => d.tone = c.tone) (fun h => (tick_tone _).trans h) n rfl

/-- A frame decides about the tone at its timer step, if it gets as far as that. -/
theorem frame_tone (c : Console) : c.frame.state.tone = if c.reachesStep then
    decide (0 < (c.ticks c.half).state.countDown.core.registers.sound) else c.tone := by
  by_cases hactive : c.Active
  · have hreach : c.reachesStep = (c.ticks c.half).result.isOk := by
      rw [reachesStep, active_iff.mp hactive, Bool.true_and]
    -- Neither row of ticks touches the tone, so only the timer step between them counts.
    have htone := ticks_tone c c.half
    have hother := ticks_tone (c.ticks c.half).state.timerStep c.otherHalf
    rw [hreach, frame_of_active hactive]
    simp only [Outcome.andThen]
    cases (c.ticks c.half).result with
    | error e => exact htone
    | ok _ =>
      dsimp only
      cases ((c.ticks c.half).state.timerStep.ticks c.otherHalf).result with
      | error e => exact hother
      | ok _ => exact hother
  · have hreach : c.reachesStep = false := by
      rw [active_iff, Bool.not_eq_true] at hactive
      rw [reachesStep, hactive, Bool.false_and]
    rw [frame_of_not_active hactive, hreach]
    rfl

/-- A frame signals the tone that it leaves behind. -/
theorem frame_tone_eq {f : Frame} (hf : c.frame.result = .ok f) : f.tone = c.frame.state.tone := by
  by_cases hactive : c.Active
  · rcases ok_or_stopsAt c with hok | ⟨j, e, hstop⟩
    · obtain ⟨hstate, hresult⟩ := frame_of_ok hactive hok
      obtain rfl := Except.ok.inj (hresult.symm.trans hf)
      rw [hstate]
      rfl
    · rw [(frame_of_stopsAt hactive hstop).2] at hf
      cases hf
  · rw [frame_of_not_active hactive] at hf ⊢
    obtain rfl := Except.ok.inj hf
    rfl

/-- Loading a program silences the tone, unless it is refused. -/
theorem load_tone (c : Console) (bytes : List UInt8) :
    (c.load bytes).state.tone = if (c.load bytes).result.isOk then false else c.tone := by
  rcases c.load_cases bytes with ⟨e, h⟩ | ⟨cartridge, log, h⟩
  · rw [h]
    rfl
  · rw [h]
    rfl

theorem insert_tone (c : Console) (cartridge : Cartridge) :
    (c.insert cartridge).state.tone =
      if (c.insert cartridge).result.isOk then false else c.tone := by
  rcases c.insert_cases cartridge with ⟨e, h⟩ | ⟨log, h⟩
  · rw [h]
    rfl
  · rw [h]
    rfl

theorem reset_tone (c : Console) :
    c.reset.state.tone = if c.cartridge?.isSome then false else c.tone := by
  cases hc : c.cartridge? with
  | some cartridge =>
    rw [reset_of_some hc]
    rfl
  | none =>
    rw [reset_of_none hc]
    rfl

theorem start_tone (c : Console) : c.start.state.tone = c.tone := by
  rw [start]
  split <;> rfl

/-- Marks that a command leaves or not, newest first. -/
theorem toneAfter_ite {marks : List ToneMark} {tone : Bool} (h : tone = toneAfter marks) (p : Bool)
    (mark : ToneMark) : (if p then toneAfter [mark] else tone) =
      toneAfter ((if p then [mark] else []) ++ marks) := by
  cases p with
  | true => cases mark <;> rfl
  | false => exact h

/-- Each command leaves the tone as its marks say, and as it was if there are none. -/
theorem obey_tone {marks : List ToneMark} (h : c.tone = toneAfter marks) (command : Command) :
    (c.obey command).state.tone = toneAfter (c.toneMarks command ++ marks) := by
  rw [obey_state]
  cases command with
  | load bytes => exact (load_tone c bytes).trans (toneAfter_ite h _ .boot)
  | insert cartridge => exact (insert_tone c cartridge).trans (toneAfter_ite h _ .boot)
  | reset => exact (reset_tone c).trans (toneAfter_ite h _ .boot)
  | frame => exact (frame_tone c).trans (toneAfter_ite h _ (.timerStep _))
  | start => exact (start_tone c).trans h
  | tick => exact (tick_tone c).trans h
  | stop | togglePause | press key | release key | consumeDraw => exact h

/-- What has decided about the tone of a console since it was new, the newest first. -/
inductive ToneHistory : Console → List ToneMark → Prop
  | new (ticksPerFrame : Int) (waitForKey : Bool) (noise : Noise) :
      ToneHistory (.new ticksPerFrame waitForKey noise) []
  | setSpeed {c : Console} {marks : List ToneMark} (ticksPerFrame : Int) (h : ToneHistory c marks) :
      ToneHistory { c with ticksPerFrame := ticksPerFrame } marks
  | obey {c : Console} {marks : List ToneMark} (command : Command) (h : ToneHistory c marks) :
      ToneHistory (c.obey command).state (c.toneMarks command ++ marks)

theorem ToneHistory.tone {marks : List ToneMark} (h : ToneHistory c marks) :
    c.tone = toneAfter marks := by
  induction h with
  | new ticksPerFrame waitForKey noise => rfl
  | setSpeed ticksPerFrame _ ih => exact ih
  | obey command _ ih => exact obey_tone ih command

/-- **The signals of a frame.**  An idle or paused console stays as it is, and so does its tone.  A
frame of any other in which no tick fails makes all its ticks around one timer step, and signals
what was drawn until its end and the tone of its timer step.  So over every history the tone that a
frame signals is the one of the last timer step since the last start. -/
theorem frame_signals :
    (∀ c : Console, ¬ c.Active → c.frame = .done c ⟨false, c.tone⟩) ∧
    (∀ c : Console, c.core.WellFormed → c.Active →
      (∀ k < c.frameTicks, (c.inFrame k).tick.result = .ok ()) →
      ∃ f, c.frame.result = .ok f ∧ Completed c f c.frame.state) ∧
    (∀ c marks, ToneHistory c marks → ∀ f, c.frame.result = .ok f →
      f.tone = toneAfter (c.toneMarks .frame ++ marks)) := by
  refine ⟨fun c hidle => frame_of_not_active hidle, fun c h hactive hok => completed h hactive hok,
    fun c marks hhistory f hf => ?_⟩
  rw [frame_tone_eq hf, ← obey_frame_state]
  exact obey_tone hhistory.tone .frame

/-- A program that sets the sound timer to 5 and then loops, at four ticks a frame. -/
def beeping : Console := { started [0x60, 0x05, 0xF0, 0x18, 0x12, 0x04] with ticksPerFrame := 4 }

/-- Two instructions are enough to be heard in the same frame, as four ticks make a frame. -/
theorem frame_signals_beeping :
    ¬ { beeping with paused := true }.Active ∧
      { beeping with paused := true }.frame =
        .done { beeping with paused := true } ⟨false, false⟩ ∧
      beeping.core.WellFormed ∧ beeping.Active ∧ ToneHistory beeping [.boot] ∧
      ∃ f, beeping.frame.result = .ok f ∧ Completed beeping f beeping.frame.state ∧
        f.tone = true := by
  have hidle : ¬ { beeping with paused := true }.Active := by
    intro hactive
    cases hactive.paused
  have h : beeping.core.WellFormed := by decide +kernel
  have hactive : beeping.Active := ⟨by decide +kernel, by decide +kernel⟩
  have hclear : ∀ k < 4, (beeping.inFrame k).core.WellFormed ∧
      (beeping.inFrame k).core.fault? = none := by
    decide +kernel
  have hok : ∀ k < beeping.frameTicks, (beeping.inFrame k).tick.result = .ok () := fun k hk =>
    congrArg Outcome.result (tick_of_clear (hclear k hk).1 (hclear k hk).2)
  have hhistory : ToneHistory beeping [.boot] :=
    .setSpeed 4 (.obey .start (.obey (.load [0x60, 0x05, 0xF0, 0x18, 0x12, 0x04])
      (.new 10 false (.cycle #[]))))
  obtain ⟨f, hf, hcompleted⟩ := frame_signals.2.1 beeping h hactive hok
  have htone : toneAfter (beeping.toneMarks .frame ++ [.boot]) = true := by decide +kernel
  exact ⟨hidle, frame_signals.1 _ hidle, h, hactive, hhistory, f, hf, hcompleted,
    (frame_signals.2.2 _ _ hhistory f hf).trans htone⟩

end Chip8.Console
