/-
When a session sounds.

A frame says whether there is to be a tone, and the buzzer follows it.  The buzzer is silent while
the console is paused, behind the end of the session, and when the window has just been closed.
Tones that come to an end, which may be reported at any time, only ever silence it.

* `Console.paused_obey` : what each command makes of a pause;
* `Session.cue?`, `Session.handle_buzzer` : what each event makes of the buzzer;
* `Session.Attuned`, `Session.handle_attuned` : the buzzer of a session agrees with its switches,
  and every event keeps that, unless the console is paused behind the back of its window;
* `Session.follows_frames` : when a session sounds.
-/
import Chip8.Proofs.Console.Signals
import Chip8.Proofs.Desktop.Ending
import Chip8.Proofs.Desktop.Tones

namespace Chip8

/-! ### Pauses -/

namespace Console

/-- Running the machine neither begins nor ends a pause. -/
theorem kept_paused (paused : Bool) : Kept fun c => c.paused = paused where
  tick {c} h := by
    obtain ⟨drawn, running, drawNeeded, -, htick⟩ := c.tick_changes
    rw [htick]
    exact h
  timerStep h := h
  signalDraw h := h

theorem frame_paused (c : Console) : c.frame.state.paused = c.paused :=
  (kept_paused c.paused).frame rfl

/-- A pause has a switch of its own, and a reset ends it. -/
theorem paused_obey (c : Console) (command : Command) :
    (c.obey command).state.paused = match command with
      | .togglePause => !c.paused
      | .reset => false
      | _ => c.paused := by
  rw [obey_state]
  cases command with
  | load bytes =>
    show (c.load bytes).state.paused = c.paused
    rcases c.load_cases bytes with ⟨e, h⟩ | ⟨cartridge, log, h⟩
    · rw [h]
      rfl
    · rw [h]
      rfl
  | insert cartridge =>
    show (c.insert cartridge).state.paused = c.paused
    rcases c.insert_cases cartridge with ⟨e, h⟩ | ⟨log, h⟩
    · rw [h]
      rfl
    · rw [h]
      rfl
  | start =>
    show c.start.state.paused = c.paused
    rw [start]
    split <;> rfl
  | reset =>
    show c.reset.state.paused = false
    cases hc : c.cartridge? with
    | some cartridge =>
      rw [reset_of_some hc]
      rfl
    | none =>
      rw [reset_of_none hc]
      rfl
  | tick => exact (kept_paused c.paused).tick rfl
  | frame => exact c.frame_paused
  | stop | togglePause | press key | release key | consumeDraw => rfl

end Console

/-! ### Silence -/

namespace Buzzer

/-- The buzzer has no player and counts as silent. -/
structure Still (b : Buzzer) : Prop where
  sounding : b.sounding = false
  player? : b.player? = none

theorem still_stop (b : Buzzer) : b.stop.1.Still := ⟨rfl, rfl⟩

/-- The end of a tone that was stopped before leaves a silent buzzer silent. -/
theorem Still.ended {b : Buzzer} (h : b.Still) (player : Nat) : (b.ended player).1.Still := by
  rw [Buzzer.ended]
  split
  · exact h
  · refine ⟨rfl, ?_⟩
    show (if b.player? = some player then none else b.player?) = none
    rw [h.player?]
    rfl

/-- A buzzer sounds behind a cue that sets it exactly if it is set to. -/
theorem sounding_set (b : Buzzer) (tone : Bool) : (b.set tone).1.sounding = tone := by
  cases tone with
  | false => rfl
  | true =>
    show b.start.1.sounding = true
    rw [start]
    split
    · assumption
    · rfl

end Buzzer

namespace Session

variable {s : Session}

/-! ### One event -/

/-- The cue that a session gives to its buzzer on an event. -/
def cue? (s : Session) : Event → Option Buzzer.Cue
  | .keyDown .escape => if s.console.paused then none else some .stop
  | .frameDue =>
    if s.hasExit then none
    else match s.console.frame.result with
      | .ok f => some (.set (f.tone && !s.console.paused))
      | .error _ => if s.console.frameFaults then some .stop else none
  | .toneEnded player => some (.ended player)
  | .close => some .stop
  | _ => none

theorem frameDue_buzzer (s : Session) : s.frameDue.session.buzzer =
    (s.cue? .frameDue).elim s.buzzer fun cue => (s.buzzer.on cue).1 := by
  rw [cue?]
  cases hexit : s.hasExit with
  | true =>
    rw [frameDue_of_hasExit hexit]
    rfl
  | false =>
    rcases s.console.frame_result_cases with
      ⟨f, hf, hfaults⟩ | ⟨f, hf, hfaults⟩ | ⟨e, he, hfaults⟩
    · rw [frameDue_of_ok hexit hf, s.console.frame_paused, hf]
      rfl
    · rw [frameDue_of_fault hexit hf, hf, hfaults]
      rfl
    · rw [frameDue_of_error hexit he hfaults, he, hfaults]
      rfl

theorem handle_buzzer (s : Session) (event : Event) : (s.handle event).session.buzzer =
    (s.cue? event).elim s.buzzer fun cue => (s.buzzer.on cue).1 := by
  cases event with
  | keyDown key =>
    cases key with
    | escape =>
      show (if s.console.togglePause.state.paused then s.buzzer.stop else (s.buzzer, [])).1 =
        (if s.console.paused then none else some .stop : Option Buzzer.Cue).elim s.buzzer
          fun cue => (s.buzzer.on cue).1
      rw [Console.togglePause]
      cases s.console.paused <;> rfl
    | f5 =>
      show s.restart.session.buzzer = s.buzzer
      rw [restart]
      split <;> rfl
    | _ => rfl
  | keyUp key => cases key <;> rfl
  | frameDue => exact s.frameDue_buzzer
  | paint | toneEnded player | close | command command => rfl

/-- Through the window, a session is paused and goes on with Escape, and goes on with F5. -/
theorem handle_paused (s : Session) (event : Event) :
    (s.handle event).session.console.paused = match event with
      | .keyDown .escape | .command .togglePause => !s.console.paused
      | .keyDown .f5 | .command .reset => false
      | _ => s.console.paused := by
  rw [handle_console]
  cases event with
  | keyDown key =>
    cases key with
    | f5 =>
      rw [commands]
      split
      · show ((s.console.obey .reset).state.obey .start).state.paused = false
        rw [Console.paused_obey, Console.paused_obey]
      · exact Bool.eq_false_iff.mpr ‹_›
    | _ => rfl
  | keyUp key => cases key <;> rfl
  | frameDue =>
    rw [commands]
    split
    · rfl
    · exact s.console.paused_obey .frame
  | command command =>
    refine (s.console.paused_obey command).trans ?_
    cases command <;> rfl
  | paint | toneEnded player | close => rfl

/-! ### Rows of events -/

/-- A buzzer that counts as sounding has a player, and it is silent during a pause and behind the
end of the session. -/
structure Attuned (s : Session) : Prop where
  player : s.buzzer.sounding = true → s.buzzer.player? ≠ none
  still : s.console.paused = true ∨ s.hasExit = true → s.buzzer.Still

theorem attuned_new (console : Console) (scale : Nat) (logsOn : Bool) :
    (new console scale logsOn).Attuned :=
  ⟨fun h => absurd h Bool.false_ne_true, fun _ => ⟨rfl, rfl⟩⟩

/-- Without a fault a frame changes nothing about the switches. -/
theorem paused_of_frameFaults_eq_false (hexit : s.hasExit = false)
    (hfaults : s.console.frameFaults = false)
    (hswitch : s.console.paused = true ∨ (s.hasExit || s.endsAt .frameDue) = true) :
    s.console.paused = true := by
  rw [endsAt, hexit, hfaults] at hswitch
  exact hswitch.resolve_right Bool.false_ne_true

theorem frameDue_still (h : s.Attuned)
    (hswitch : s.console.paused = true ∨ (s.hasExit || s.endsAt .frameDue) = true) :
    s.frameDue.session.buzzer.Still := by
  cases hexit : s.hasExit with
  | true =>
    rw [frameDue_of_hasExit hexit]
    exact h.still (.inr hexit)
  | false =>
    rcases s.console.frame_result_cases with ⟨f, hf, hfaults⟩ | ⟨f, hf, -⟩ | ⟨e, he, hfaults⟩
    · -- The frame does not end the session, so it is a pause that keeps its tone from sounding.
      have hpaused := paused_of_frameFaults_eq_false hexit hfaults hswitch
      rw [frameDue_of_ok hexit hf, s.console.frame_paused, hpaused, Bool.not_true, Bool.and_false]
      exact s.buzzer.still_stop
    · rw [frameDue_of_fault hexit hf]
      exact s.buzzer.still_stop
    · have hpaused := paused_of_frameFaults_eq_false hexit hfaults hswitch
      rw [frameDue_of_error hexit he hfaults]
      exact h.still (.inl hpaused)

/-- An event behind which the console is paused or the session has ended leaves silence. -/
theorem handle_still (h : s.Attuned) {event : Event} (hevent : event ≠ .command .togglePause)
    (hswitch : (s.handle event).session.console.paused = true ∨
      (s.handle event).session.hasExit = true) : (s.handle event).session.buzzer.Still := by
  rw [handle_paused, hasExit_handle] at hswitch
  -- Only a frame can end the session, so at all other events it had ended before or goes on.
  by_cases hframe : event = .frameDue
  · subst hframe
    exact frameDue_still h hswitch
  · rw [endsAt_of_ne hframe, Bool.or_false] at hswitch
    rw [handle_buzzer]
    cases event with
    | frameDue => exact absurd rfl hframe
    | keyDown key =>
      cases key with
      | escape =>
        rw [cue?]
        cases hpaused : s.console.paused with
        | true => exact h.still (.inl hpaused)
        | false => exact s.buzzer.still_stop
      | f5 => exact h.still (.inr (hswitch.resolve_left Bool.false_ne_true))
      | _ => exact h.still hswitch
    | toneEnded player => exact (h.still hswitch).ended player
    | close => exact s.buzzer.still_stop
    | command command =>
      cases command with
      | togglePause => exact absurd rfl hevent
      | reset => exact h.still (.inr (hswitch.resolve_left Bool.false_ne_true))
      | _ => exact h.still hswitch
    | keyUp key => exact h.still hswitch
    | paint => exact h.still hswitch

theorem handle_attuned (h : s.Attuned) {event : Event} (hevent : event ≠ .command .togglePause) :
    (s.handle event).session.Attuned := by
  refine ⟨?_, handle_still h hevent⟩
  rw [handle_buzzer]
  cases s.cue? event with
  | none => exact h.player
  | some cue => exact Buzzer.player?_on h.player cue

theorem handleAll_attuned (h : s.Attuned) {events : List Event}
    (hevents : ∀ event ∈ events, event ≠ .command .togglePause) :
    (s.handleAll events).Attuned := by
  refine handleAll_keep_of ?_ h
  intro t event hmem h
  exact handle_attuned h (hevents event hmem)

/-- Sound goes with the frames of the session. -/
structure Follows (s : Session) : Prop extends s.Attuned where
  /-- A frame decides about the sound, but a pause has the last word. -/
  frame : s.hasExit = false → ∀ f, s.console.frame.result = .ok f →
    (s.handle .frameDue).session.buzzer.sounding =
      (f.tone && !(s.handle .frameDue).session.console.paused)
  close : (s.handle .close).session.buzzer.sounding = false

theorem Attuned.follows (h : s.Attuned) : s.Follows where
  toAttuned := h
  frame hexit f hf := by
    rw [handle, frameDue_of_ok hexit hf]
    exact s.buzzer.sounding_set _
  close := rfl

/-- **Sound follows the frames.**  Whatever events a session gets, unless the console is paused
behind the back of its window: a buzzer that counts as sounding has a player, the buzzer is silent
during a pause and behind the end of the session, and when the window has just been closed, and
behind a frame it sounds exactly if the frame says so and the console is not paused.  Frames of a
well-formed machine do say so, or they fault. -/
theorem follows_frames (console : Console) (scale : Nat) (logsOn : Bool) (events : List Event)
    (hevents : ∀ event ∈ events, event ≠ .command .togglePause) :
    ((new console scale logsOn).handleAll events).Follows ∧
      (console.core.WellFormed →
        (∃ f, ((new console scale logsOn).handleAll events).console.frame.result = .ok f) ∨
        ∃ f, ((new console scale logsOn).handleAll events).console.frame.result =
          .error (.fault f)) := by
  refine ⟨(handleAll_attuned (attuned_new console scale logsOn) hevents).follows, fun h => ?_⟩
  have hwellFormed := handleAll_keep (new console scale logsOn) (P := fun c => c.core.WellFormed)
    (fun command h => Console.lasting_wellFormed.obey h command) h events
  exact Console.frame_cases hwellFormed

/-- A session with the program that beeps. -/
def humming : Session := new Console.beeping 1 false

/-- It sounds behind its first frame, and a pause or the end of the window silences it. -/
theorem follows_frames_humming :
    (∀ event ∈ [Event.frameDue, .keyDown .escape], event ≠ .command .togglePause) ∧
      (humming.handleAll [.frameDue]).buzzer.sounding = true ∧
      (humming.handleAll [.frameDue]).buzzer.player? ≠ none ∧
      ((humming.handleAll [.frameDue]).handle .close).session.buzzer.sounding = false ∧
      (humming.handleAll [.frameDue, .keyDown .escape]).console.paused = true ∧
      (humming.handleAll [.frameDue, .keyDown .escape]).buzzer.Still := by
  have hevents : ∀ event ∈ [Event.frameDue, .keyDown .escape], event ≠ .command .togglePause := by
    simp
  have hsounding : (humming.handleAll [.frameDue]).buzzer.sounding = true := by decide +kernel
  have hpaused : (humming.handleAll [.frameDue, .keyDown .escape]).console.paused = true := by
    rw [handleAll, List.foldl_cons, List.foldl_cons, List.foldl_nil, handle_paused, handle_paused]
    rfl
  have hframe : (humming.handleAll [.frameDue]).Follows :=
    (follows_frames Console.beeping 1 false [.frameDue] (by simp)).1
  have hpause : (humming.handleAll [.frameDue, .keyDown .escape]).Follows :=
    (follows_frames Console.beeping 1 false [.frameDue, .keyDown .escape] hevents).1
  exact ⟨hevents, hsounding, hframe.player hsounding, hframe.close, hpaused,
    hpause.still (.inl hpaused)⟩

end Session
end Chip8
