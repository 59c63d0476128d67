/-
What events come down to.

Through a window, a session only gives commands to its console, makes requests, and changes its
buzzer, its image and its switches.

* `handle_console`, `mem_commands` : the commands that an event stands for;
* `handleAll_keep_of`, `handleAll_keep` : what follows for rows of events;
* `handle_image`, `handleAll_image` : the image is what the requests have made of it.
-/
import Chip8.Desktop.Session
import Chip8.Proofs.Console.Boot

namespace Chip8

/-- The picture that a request gives to the image. -/
def Request.picture? : Request → Option Picture
  | .makeImage _ _ picture | .setPicture _ picture => some picture
  | _ => none

/-- The picture that the image was given last. -/
def lastPicture? (requests : List Request) : Option Picture :=
  requests.reverse.findSome? Request.picture?

theorem lastPicture?_append (first second : List Request) :
    lastPicture? (first ++ second) = (lastPicture? second).or (lastPicture? first) := by
  rw [lastPicture?, List.reverse_append, List.findSome?_append]
  rfl

/-- The request is about a player. -/
def Request.isForPlayer : Request → Bool
  | .queue .. | .play _ | .pause _ | .delete _ => true
  | _ => false

/-- Requests about players leave the image alone. -/
theorem lastPicture?_of_isForPlayer {requests : List Request}
    (h : ∀ r ∈ requests, r.isForPlayer = true) : lastPicture? requests = none := by
  refine List.findSome?_eq_none_iff.mpr fun r hr => ?_
  have hplayer := h r (List.mem_reverse.mp hr)
  cases r with
  | queue | play | pause | delete => rfl
  | _ => cases hplayer

namespace Buzzer

variable (b : Buzzer)

/-! Whatever a buzzer asks for is about players. -/

theorem isForPlayer_stop : ∀ r ∈ b.stop.2, r.isForPlayer = true := by
  rw [stop]
  cases b.player? <;> simp [Request.isForPlayer]

theorem isForPlayer_set (tone : Bool) : ∀ r ∈ (b.set tone).2, r.isForPlayer = true := by
  cases tone with
  | false => exact b.isForPlayer_stop
  | true =>
    show ∀ r ∈ b.start.2, r.isForPlayer = true
    rw [start]
    split <;> simp [Request.isForPlayer]

theorem isForPlayer_ended (player : Nat) : ∀ r ∈ (b.ended player).2, r.isForPlayer = true := by
  rw [ended]
  split <;> simp [Request.isForPlayer]

end Buzzer

namespace Session

variable (s : Session)

/-! ### The console -/

/-- The commands that a session gives to its console on an event. -/
def commands (s : Session) : Event → List Command
  | .keyDown .escape => [.togglePause]
  | .keyDown .f5 => if s.console.paused then [.reset, .start] else []
  | .keyDown key => (key.pad?.map fun k => Command.press k).toList
  | .keyUp key => (key.pad?.map fun k => Command.release k).toList
  | .frameDue => if s.hasExit then [] else [.frame]
  | .paint => [.consumeDraw]
  | .toneEnded _ => []
  | .close => [.stop]
  | .command command => [command]

/-- The commands that there are keys, frames and other reports of a window for. -/
inductive Usual : Command → Prop
  | togglePause : Usual .togglePause
  | reset : Usual .reset
  | start : Usual .start
  | press (k : Int) : Usual (.press k)
  | release (k : Int) : Usual (.release k)
  | frame : Usual .frame
  | stop : Usual .stop

theorem usual_of_mem_map {give : Int → Command} (hgive : ∀ k, Usual (give k)) {pad? : Option Int}
    {command : Command} (h : command ∈ (pad?.map give).toList) : Usual command := by
  obtain ⟨k, -, rfl⟩ := Option.map_eq_some_iff.mp (Option.mem_toList.mp h)
  exact hgive k

/-- All others come past the window, or from painting. -/
theorem mem_commands {event : Event} {command : Command} (h : command ∈ s.commands event) :
    event = .command command ∨ event = .paint ∧ command = .consumeDraw ∨ Usual command := by
  cases event with
  | keyDown key =>
    right; right
    cases key with
    | escape =>
      rw [List.mem_singleton.mp h]
      exact .togglePause
    | f5 =>
      rw [commands] at h
      split at h
      · rcases List.mem_cons.mp h with rfl | h
        · exact .reset
        · rw [List.mem_singleton.mp h]
          exact .start
      · cases h
    | _ =>
      simp only [commands] at h
      exact usual_of_mem_map .press h
  | keyUp key =>
    rw [commands] at h
    exact .inr (.inr (usual_of_mem_map .release h))
  | frameDue =>
    right; right
    rw [commands] at h
    split at h
    · cases h
    · rw [List.mem_singleton.mp h]
      exact .frame
  | paint => exact .inr (.inl ⟨rfl, List.mem_singleton.mp h⟩)
  | toneEnded player => cases h
  | close =>
    rw [List.mem_singleton.mp h]
    exact .inr (.inr .stop)
  | command given =>
    rw [List.mem_singleton.mp h]
    exact .inl rfl

theorem restart_console : s.restart.session.console =
    if s.console.paused then s.console.obeyAll [.reset, .start] else s.console := by
  rw [restart]
  split
  · show (s.console.reset.andThen fun _ c => c.start).state =
      ((s.console.obey .reset).state.obey .start).state
    rw [Console.obey, Console.obey, Console.silent_state, Console.silent_state]
    cases hc : s.console.cartridge? with
    | some cartridge =>
      rw [Console.reset_of_some hc]
      rfl
    | none =>
      rw [Console.reset_of_none hc]
      rfl
  · rfl

theorem frameDue_console : s.frameDue.session.console =
    if s.hasExit then s.console else s.console.frame.state := by
  rw [frameDue]
  split
  · rfl
  · -- A frame that fails leaves its console behind as well.
    dsimp only
    split <;> rfl

theorem handle_console (event : Event) :
    (s.handle event).session.console = s.console.obeyAll (s.commands event) := by
  cases event with
  | keyDown key =>
    cases key with
    | f5 =>
      show s.restart.session.console = _
      rw [restart_console, commands]
      split <;> rfl
    | _ => rfl
  | keyUp key => cases key <;> rfl
  | frameDue =>
    show s.frameDue.session.console = _
    rw [frameDue_console, commands]
    split
    · rfl
    · exact (Console.obey_frame_state _).symm
  | command command =>
    show ((s.console.obey command).andThen fun _ c => .done c ()).state = _
    rw [Outcome.andThen]
    cases (s.console.obey command).result <;> rfl
  | paint | toneEnded player | close => rfl

/-- What all events of a row keep, the row keeps. -/
theorem handleAll_keep_of {P : Session → Prop} {events : List Event}
    (hhandle : ∀ {s : Session} {event : Event}, event ∈ events → P s → P (s.handle event).session)
    {s : Session} (h : P s) : P (s.handleAll events) := by
  induction events generalizing s with
  | nil => exact h
  | cons event rest ih =>
    refine ih ?_ (hhandle List.mem_cons_self h)
    intro t event' hmem
    exact hhandle (List.mem_cons_of_mem _ hmem)

/-- What every command keeps of a console, all events keep of the one of a session. -/
theorem handleAll_keep {P : Console → Prop}
    (hobey : ∀ {c : Console} (command : Command), P c → P (c.obey command).state)
    (h : P s.console) (events : List Event) : P (s.handleAll events).console := by
  refine handleAll_keep_of (P := fun s => P s.console) ?_ h
  intro s event _ h
  rw [handle_console]
  exact Console.obeyAll_keep hobey h _

/-! ### The image -/

/-- What a session asks for in a row of events. -/
def asked (s : Session) : List Event → List Request
  | [] => []
  | event :: rest => (s.handle event).requests ++ (s.handle event).session.asked rest

/-- A reaction that leaves the image alone, as well as its scale. -/
structure Quiet (s : Session) (r : Reaction) : Prop where
  scale : r.session.scale = s.scale
  image : r.session.image = s.image
  picture : lastPicture? r.requests = none

theorem togglePause_quiet : s.Quiet s.togglePause := by
  refine ⟨rfl, rfl, ?_⟩
  show lastPicture? (if s.console.togglePause.state.paused then s.buzzer.stop
    else (s.buzzer, [])).2 = none
  split
  · exact lastPicture?_of_isForPlayer s.buzzer.isForPlayer_stop
  · rfl

theorem frameDue_quiet : s.Quiet s.frameDue := by
  rw [frameDue]
  split
  · exact ⟨rfl, rfl, rfl⟩
  · dsimp only
    split
    · exact ⟨rfl, rfl, lastPicture?_of_isForPlayer (s.buzzer.isForPlayer_set _)⟩
    · refine ⟨rfl, rfl, ?_⟩
      rw [lastPicture?_append, lastPicture?_of_isForPlayer s.buzzer.isForPlayer_stop]
      rfl
    · exact ⟨rfl, rfl, rfl⟩

theorem close_quiet : s.Quiet s.close := by
  refine ⟨rfl, rfl, ?_⟩
  show lastPicture? ([.unschedule] ++ s.buzzer.stop.2 ++ [.defaultClose]) = none
  rw [lastPicture?_append, lastPicture?_append,
    lastPicture?_of_isForPlayer s.buzzer.isForPlayer_stop]
  rfl

/-- Only painting gives the image a picture. -/
theorem handle_quiet {event : Event} (hpaint : event ≠ .paint) : s.Quiet (s.handle event) := by
  cases event with
  | keyDown key =>
    cases key with
    | escape => exact s.togglePause_quiet
    | f5 =>
      show s.Quiet s.restart
      rw [restart]
      split <;> exact ⟨rfl, rfl, rfl⟩
    | _ => exact ⟨rfl, rfl, rfl⟩
  | keyUp key => cases key <;> exact ⟨rfl, rfl, rfl⟩
  | frameDue => exact s.frameDue_quiet
  | paint => exact absurd rfl hpaint
  | toneEnded player =>
    exact ⟨rfl, rfl, lastPicture?_of_isForPlayer (s.buzzer.isForPlayer_ended player)⟩
  | close => exact s.close_quiet
  | command command => exact ⟨rfl, rfl, rfl⟩

/-- What is drawn over a paused display. -/
def label (s : Session) : List Request := if s.console.paused then [.drawLabel] else []

theorem lastPicture?_label : lastPicture? s.label = none := by
  rw [label]
  split <;> rfl

/-- Painting when a redraw was asked for, in full. -/
theorem paint_of_needed (h : s.console.drawNeeded = true) :
    s.paint = ⟨{ s with
        console := s.console.consumeDraw.1
        image := .ofDisplay s.scale s.console.core.memory.display },
      [.clear, .setPicture (4 * s.width) (.ofDisplay s.scale s.console.core.memory.display),
        .blit 0 0] ++ s.label, [], .ok ()⟩ := by
  simp [paint, label, Console.consumeDraw, h]

/-- Painting when none was. -/
theorem paint_of_not_needed (h : s.console.drawNeeded = false) :
    s.paint = ⟨{ s with console := s.console.consumeDraw.1 }, [.clear, .blit 0 0] ++ s.label, [],
      .ok ()⟩ := by
  simp [paint, label, Console.consumeDraw, h]

/-- The image is what the requests have made of it. -/
theorem handle_image (event : Event) : (s.handle event).session.image =
    (lastPicture? (s.handle event).requests).getD s.image := by
  by_cases hpaint : event = .paint
  · subst hpaint
    show s.paint.session.image = (lastPicture? s.paint.requests).getD s.image
    cases hneeded : s.console.drawNeeded with
    | true =>
      rw [s.paint_of_needed hneeded, lastPicture?_append, lastPicture?_label]
      rfl
    | false =>
      rw [s.paint_of_not_needed hneeded, lastPicture?_append, lastPicture?_label]
      rfl
  · have hquiet := s.handle_quiet hpaint
    rw [hquiet.picture, hquiet.image]
    rfl

theorem handleAll_image (events : List Event) :
    (s.handleAll events).image = (lastPicture? (s.asked events)).getD s.image := by
  induction events generalizing s with
  | nil => rfl
  | cons event rest ih =>
    rw [handleAll, List.foldl_cons, ← handleAll, ih, handle_image, asked, lastPicture?_append]
    cases lastPicture? ((s.handle event).session.asked rest) <;> rfl

theorem handle_scale (event : Event) : (s.handle event).session.scale = s.scale := by
  by_cases hpaint : event = .paint
  · subst hpaint
    rfl
  · exact (s.handle_quiet hpaint).scale

theorem handleAll_scale (events : List Event) : (s.handleAll events).scale = s.scale := by
  refine handleAll_keep_of (P := fun t => t.scale = s.scale) ?_ rfl
  intro t event _ h
  rw [handle_scale, h]

end Session
end Chip8
