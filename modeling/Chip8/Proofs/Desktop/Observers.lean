/-
What the program does not see.

Painting, the end of a tone, the logs, keys without a meaning, and frames that are due while the
console is paused or the session has ended are nothing to the program.  They change the image, the
buzzer and the switch for the logs, they take requests for a redraw, and nothing else depends on
those.

* `handle_sameProgram` : an event does the same to the program whatever these are;
* `sameProgram_of_unseen` : the events above do nothing to it;
* `essential_sameProgram` : so it does not matter which of them there are, and when.
-/
import Chip8.Proofs.Console.Lockstep
import Chip8.Proofs.Desktop.Handling

namespace Chip8

namespace Console

/-- The console with a redraw asked for or not. -/
def withRequest (c : Console) (needed : Bool) : Console := { c with drawNeeded := needed }

/-- Two consoles that are the same but for whether a redraw is asked for. -/
def SameButRequest (c d : Console) : Prop := ∃ needed, d = c.withRequest needed

variable {c d e : Console}

theorem SameButRequest.refl : c.SameButRequest c := ⟨c.drawNeeded, rfl⟩

theorem SameButRequest.symm (h : c.SameButRequest d) : d.SameButRequest c := by
  obtain ⟨needed, rfl⟩ := h
  exact ⟨c.drawNeeded, rfl⟩

theorem SameButRequest.trans (h : c.SameButRequest d) (h' : d.SameButRequest e) :
    c.SameButRequest e := by
  obtain ⟨needed, rfl⟩ := h
  obtain ⟨needed', rfl⟩ := h'
  exact ⟨needed', rfl⟩

theorem halt_sameButRequest (h : c.SameButRequest d) (place : Place) (e : Error) :
    (c.halt place e).Alike SameButRequest (d.halt place e) := by
  obtain ⟨needed, rfl⟩ := h
  rw [halt, halt]
  cases e.at place with
  | fault f => exact ⟨⟨needed || c.core.drawn, rfl⟩, rfl, rfl⟩
  | _ => exact ⟨⟨needed, rfl⟩, rfl, rfl⟩

theorem tick_sameButRequest (h : c.SameButRequest d) : c.tick.Alike SameButRequest d.tick := by
  obtain ⟨needed, rfl⟩ := h
  rw [tick, tick, show (c.withRequest needed).core = c.core from rfl]
  cases c.core.fetch with
  | error e => exact halt_sameButRequest ⟨needed, rfl⟩ _ e
  | ok found =>
    obtain ⟨word, core⟩ := found
    dsimp only
    cases (core.execute (Instr.decode word)).result with
    | error e => exact halt_sameButRequest ⟨needed, rfl⟩ _ e
    | ok _ => exact ⟨⟨needed, rfl⟩, rfl, rfl⟩

/-- Frames ask for redraws and never look whether one was asked for. -/
theorem frameLockstep_request : FrameLockstep SameButRequest where
  front h := by
    obtain ⟨needed, rfl⟩ := h
    exact ⟨rfl, rfl, rfl, rfl, rfl⟩
  tick := tick_sameButRequest
  timerStep h := by
    obtain ⟨needed, rfl⟩ := h
    exact ⟨needed, rfl⟩
  signalDraw {c _} h := by
    obtain ⟨needed, rfl⟩ := h
    exact ⟨needed || c.core.drawn, rfl⟩

theorem undisturbed_request : Undisturbed SameButRequest where
  setting h := by
    obtain ⟨needed, rfl⟩ := h
    exact ⟨rfl, rfl, rfl, rfl⟩
  running h _ := by
    obtain ⟨needed, rfl⟩ := h
    exact ⟨needed, rfl⟩
  paused h _ := by
    obtain ⟨needed, rfl⟩ := h
    exact ⟨needed, rfl⟩
  keys h _ := by
    obtain ⟨needed, rfl⟩ := h
    exact ⟨needed, rfl⟩
  -- Starting over always asks for one.
  booted h _ := by
    obtain ⟨needed, rfl⟩ := h
    exact ⟨true, rfl⟩
  cleared h := by
    obtain ⟨needed, rfl⟩ := h
    exact ⟨needed, rfl⟩

/-- Taking the request is the only command whose answer tells such consoles apart, and then they are
the same. -/
theorem obey_sameButRequest (h : c.SameButRequest d) (command : Command) :
    (c.obey command).state.SameButRequest (d.obey command).state := by
  by_cases htick : command = .tick
  · subst htick
    rw [obey_state, obey_state]
    exact (tick_sameButRequest h).state
  by_cases hframe : command = .frame
  · subst hframe
    rw [obey_state, obey_state]
    exact (frameLockstep_request.frame h).state
  by_cases hconsume : command = .consumeDraw
  · subst hconsume
    obtain ⟨needed, rfl⟩ := h
    exact ⟨false, rfl⟩
  · exact (undisturbed_request.obey h htick hframe hconsume).state

theorem obeyAll_sameButRequest (h : c.SameButRequest d) (commands : List Command) :
    (c.obeyAll commands).SameButRequest (d.obeyAll commands) := by
  induction commands generalizing c d with
  | nil => exact h
  | cons command rest ih => exact ih (obey_sameButRequest h command)

/-- The next frame ends with a fault. -/
def frameFaults (c : Console) : Bool :=
  match c.frame.result with
  | .error (.fault _) => true
  | _ => false

theorem frame_of_paused (h : c.paused = true) : c.frame = .done c ⟨false, c.tone⟩ := by
  rw [frame, if_pos (by rw [h, Bool.or_true])]

end Console

namespace Session

variable {s t : Session}

/-- Two sessions are the same to the program: they agree on the console, but for whether a redraw is
asked for, and on whether they have ended. -/
structure SameProgram (s t : Session) : Prop where
  console : s.console.SameButRequest t.console
  hasExit : s.hasExit = t.hasExit

theorem SameProgram.refl : s.SameProgram s := ⟨.refl, rfl⟩

theorem SameProgram.symm (h : s.SameProgram t) : t.SameProgram s :=
  ⟨h.console.symm, h.hasExit.symm⟩

theorem SameProgram.trans {u : Session} (h : s.SameProgram t) (h' : t.SameProgram u) :
    s.SameProgram u :=
  ⟨h.console.trans h'.console, h.hasExit.trans h'.hasExit⟩

/-! ### One event -/

/-- Only a fault in a frame ends a session. -/
theorem handle_hasExit (s : Session) (event : Event) : (s.handle event).session.hasExit =
    match event with
    | .frameDue => s.hasExit || s.console.frameFaults
    | _ => s.hasExit := by
  cases event with
  | frameDue =>
    show s.frameDue.session.hasExit = (s.hasExit || s.console.frameFaults)
    rw [frameDue, Console.frameFaults]
    split
    · next hexit =>
      rw [hexit]
      exact hexit
    · next hexit =>
      rw [Bool.not_eq_true] at hexit
      rw [hexit]
      dsimp only
      cases s.console.frame.result with
      | ok f => rfl
      | error e => cases e <;> rfl
  | keyDown key =>
    cases key with
    | f5 =>
      show s.restart.session.hasExit = s.hasExit
      rw [restart]
      split <;> rfl
    | _ => rfl
  | keyUp key => cases key <;> rfl
  | _ => rfl

theorem commands_eq (h : s.SameProgram t) (event : Event) :
    s.commands event = t.commands event := by
  obtain ⟨⟨needed, hconsole⟩, hexit⟩ := h
  have hpaused : s.console.paused = t.console.paused := by rw [hconsole]; rfl
  cases event with
  | keyDown key => cases key <;> simp only [commands, hpaused]
  | frameDue => simp only [commands, hexit]
  | keyUp _ | paint | toneEnded _ | close | command _ => rfl

/-- An event does the same to sessions that are the same to the program. -/
theorem handle_sameProgram (h : s.SameProgram t) (event : Event) :
    (s.handle event).session.SameProgram (t.handle event).session := by
  refine ⟨?_, ?_⟩
  · rw [handle_console, handle_console, commands_eq h]
    exact Console.obeyAll_sameButRequest h.console _
  · have hresult := (Console.frameLockstep_request.frame h.console).result
    rw [handle_hasExit, handle_hasExit, h.hasExit, Console.frameFaults, Console.frameFaults,
      hresult]

theorem handleAll_sameProgram (h : s.SameProgram t) (events : List Event) :
    (s.handleAll events).SameProgram (t.handleAll events) := by
  induction events generalizing s t with
  | nil => exact h
  | cons event rest ih => exact ih (handle_sameProgram h event)

/-! ### Events that are not seen -/

/-- The events that the program does not see. -/
def unseen (s : Session) : Event → Bool
  | .paint | .toneEnded _ => true
  | .keyDown key | .keyUp key => key.pad?.isNone && key != .escape && key != .f5
  | .frameDue => s.console.paused || s.hasExit
  | .close | .command _ => false

/-- The keys among them have no command. -/
theorem commands_of_unseen {key : Key} (h : s.unseen (.keyDown key) = true) :
    s.commands (.keyDown key) = [] ∧ s.commands (.keyUp key) = [] := by
  cases key <;> simp_all [unseen, commands, Key.pad?]

/-- Such an event does nothing that the program sees. -/
theorem sameProgram_of_unseen {event : Event} (h : s.unseen event = true) :
    s.SameProgram (s.handle event).session := by
  refine ⟨?_, ?_⟩
  · rw [handle_console]
    cases event with
    | paint => exact ⟨false, rfl⟩
    | toneEnded player => exact .refl
    | keyDown key =>
      rw [(commands_of_unseen h).1]
      exact .refl
    | keyUp key =>
      rw [(commands_of_unseen h).2]
      exact .refl
    | frameDue =>
      rw [commands]
      split
      · exact .refl
      · next hexit =>
        -- The frame is made, but not of a console that is paused.
        have hpaused : s.console.paused = true := by simpa [unseen, hexit] using h
        show s.console.SameButRequest (s.console.obey .frame).state
        rw [Console.obey_frame_state, Console.frame_of_paused hpaused]
        exact .refl
    | close | command _ => exact absurd h Bool.false_ne_true
  · rw [handle_hasExit]
    cases event with
    | frameDue =>
      rcases Bool.or_eq_true_iff.mp h with hpaused | hexit
      · rw [Console.frameFaults, Console.frame_of_paused hpaused]
        exact (Bool.or_false _).symm
      · rw [hexit, Bool.true_or]
    | _ => rfl

/-! ### Rows of events -/

/-- The events of a row without those that the program does not see when they come. -/
def essential (s : Session) : List Event → List Event
  | [] => []
  | event :: rest =>
    let later := (s.handle event).session.essential rest
    if s.unseen event then later else event :: later

theorem handleAll_essential (s : Session) (events : List Event) :
    (s.handleAll events).SameProgram (s.handleAll (s.essential events)) := by
  induction events generalizing s with
  | nil => exact .refl
  | cons event rest ih =>
    have hlater := ih (s.handle event).session
    rw [essential]
    split
    · next hunseen =>
      -- What is left of the row starts from before the event.
      exact hlater.trans (handleAll_sameProgram (sameProgram_of_unseen hunseen).symm _)
    · exact hlater

theorem handleAll_append (s : Session) (first second : List Event) :
    s.handleAll (first ++ second) = (s.handleAll first).handleAll second :=
  List.foldl_append

/-- **Observers do not influence the program.**  If the events that the program does not see are
left out of a row, it makes no difference to the program.  So two sessions that start the same to
the program end so if they get the same other events, whatever their logs, images and buzzers are;
and in particular it makes no difference if one more event that it does not see comes at any
moment. -/
theorem essential_sameProgram (s : Session) (events : List Event) :
    (s.handleAll events).SameProgram (s.handleAll (s.essential events)) ∧
      (∀ (t : Session) (events' : List Event), s.SameProgram t →
        s.essential events = t.essential events' →
        (s.handleAll events).SameProgram (t.handleAll events')) ∧
      ∀ (event : Event) (later : List Event), (s.handleAll events).unseen event = true →
        (s.handleAll (events ++ later)).SameProgram (s.handleAll (events ++ event :: later)) := by
  refine ⟨handleAll_essential s events, fun t events' h hsame => ?_, fun event later hunseen => ?_⟩
  · have hboth := handleAll_sameProgram h (s.essential events)
    have ht := (handleAll_essential t events').symm
    rw [← hsame] at ht
    exact (handleAll_essential s events).trans (hboth.trans ht)
  · rw [handleAll_append, handleAll_append]
    exact handleAll_sameProgram (sameProgram_of_unseen hunseen) later

/-- A session with a program that draws the digit 0 over and over, at three ticks a frame. -/
def blinking : Session :=
  .new ((Console.new 3 false (.cycle #[])).load
    [0xA0, 0x50, 0xD0, 0x05, 0x12, 0x02]).state.start.state 1 false

/-- Painting before a frame or behind it, with the logs off or on, and turning them on between two
frames. -/
theorem essential_sameProgram_blinking :
    blinking.SameProgram { blinking with logsOn := true } ∧
      blinking.essential [.paint, .frameDue] =
        { blinking with logsOn := true }.essential [.frameDue, .paint] ∧
      (blinking.handleAll [.paint, .frameDue]).SameProgram
        ({ blinking with logsOn := true }.handleAll [.frameDue, .paint]) ∧
      (blinking.handleAll [.frameDue, .frameDue]).SameProgram
        (blinking.handleAll [.frameDue, .keyDown .f1, .frameDue]) := by
  have hlogs : blinking.SameProgram { blinking with logsOn := true } := ⟨.refl, rfl⟩
  -- In no session does painting or the switch for the logs decide whether a frame is seen.
  have hswap : ∀ s : Session, s.essential [.paint, .frameDue] =
      { s with logsOn := true }.essential [.frameDue, .paint] := fun _ => rfl
  have hsame := hswap blinking
  obtain ⟨-, hother, -⟩ := essential_sameProgram blinking [.paint, .frameDue]
  obtain ⟨-, -, hinsert⟩ := essential_sameProgram blinking [.frameDue]
  exact ⟨hlogs, hsame, hother _ _ hlogs hsame, hinsert (.keyDown .f1) [.frameDue] rfl⟩

end Session
end Chip8
