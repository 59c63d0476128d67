/-
A session: a console behind a window, a keyboard and a buzzer.

The window system reports events, and the session answers each with requests and printed lines.
Escape pauses, F1 turns the logs on and off, F5 restarts a paused console, and sixteen other keys
are passed on to the keypad.  A fault ends the session: it is printed, the window is closed, and no
frame runs after it.
-/
import Chip8.Console.Command
import Chip8.Desktop.Buzzer
import Chip8.Desktop.Key

namespace Chip8

structure Session where
  console : Console
  buzzer : Buzzer
  /-- What the window shows when it is painted. -/
  image : Picture
  /-- Window pixels for a pixel of the display, across and down. -/
  scale : Nat
  hasExit : Bool
  logsOn : Bool

/-- What the window system reports. -/
inductive Event where
  | keyDown (key : Key)
  | keyUp (key : Key)
  /-- It is time for a frame. -/
  | frameDue
  /-- The window has to be painted. -/
  | paint
  /-- A player has come to the end of its tone. -/
  | toneEnded (player : Nat)
  /-- The window is being closed. -/
  | close
  /-- A command to the console that does not come through the window. -/
  | command (command : Command)

/-- A session after an event, and what it asked for and printed meanwhile. -/
structure Reaction where
  session : Session
  requests : List Request
  printed : List String
  result : Except Error Unit

namespace Session

def width (s : Session) : Nat := 64 * s.scale

def height (s : Session) : Nat := 32 * s.scale

/-- A session that has just been opened. -/
def new (console : Console) (scale : Nat) (logsOn : Bool) : Session :=
  ⟨console, .standard, .ofDisplay scale .blank, scale, false, logsOn⟩

/-- A session that has just been opened, where `pictures` is what comes of making the first picture
of a scale.  Without one there is no session, and no account is kept of the window that was made for
it.  What can be made once is taken to be made for every painting. -/
def ofScale (pictures : Int → Except Error Unit) (console : Console) (scale : Int)
    (logsOn : Bool) : Except Error Session :=
  (pictures scale).map fun () => new console scale.toNat logsOn

/-- What opening a window asks for. -/
def opening (s : Session) : List Request :=
  [.openWindow s.width s.height "CHIP-8 Emulator" false,
   .makeImage s.width s.height s.image,
   .makeLabel "PAUSED (Esc to resume, F5 to reset)" 12 (s.width / 2) (s.height / 2) .white,
   .schedule (.nearest false 1 60)]

/-- The logged lines that are printed. -/
def printed (s : Session) (log : Array String) : List String := if s.logsOn then log.toList else []

/-- A reaction that changes nothing and asks for nothing. -/
def ignore (s : Session) : Reaction := ⟨s, [], [], .ok ()⟩

/-- The reaction to an outcome of the console. -/
def follow (s : Session) (o : Outcome Console Unit) : Reaction :=
  ⟨{ s with console := o.state }, [], s.printed o.log, o.result⟩

/-- Pause or go on; a pause silences the buzzer. -/
def togglePause (s : Session) : Reaction :=
  let o := s.console.togglePause
  let (buzzer, requests) := if o.state.paused then s.buzzer.stop else (s.buzzer, [])
  ⟨{ s with console := o.state, buzzer := buzzer }, requests, s.printed o.log, .ok ()⟩

def toggleLogs (s : Session) : Reaction :=
  ⟨{ s with logsOn := !s.logsOn }, [], ["logs_on: " ++ Console.truthText (!s.logsOn)], .ok ()⟩

/-- Reset a paused console and start it. -/
def restart (s : Session) : Reaction :=
  if s.console.paused then s.follow (s.console.reset.andThen fun () c => c.start) else s.ignore

def keyDown (s : Session) (key : Key) : Reaction :=
  match key with
  | .escape => s.togglePause
  | .f1 => s.toggleLogs
  | .f5 => s.restart
  | key =>
    match key.pad? with
    | some k => { s with console := s.console.press k }.ignore
    | none => s.ignore

def keyUp (s : Session) (key : Key) : Reaction :=
  match key.pad? with
  | some k => { s with console := s.console.release k }.ignore
  | none => s.ignore

/-- Run a frame; a fault ends the session. -/
def frameDue (s : Session) : Reaction :=
  if s.hasExit then s.ignore
  else
    let o := s.console.frame
    let lines := s.printed o.log
    match o.result with
    | .ok f =>
      let (buzzer, requests) := s.buzzer.set (f.tone && !o.state.paused)
      ⟨{ s with console := o.state, buzzer := buzzer }, requests, lines, .ok ()⟩
    | .error (.fault f) =>
      let (buzzer, requests) := s.buzzer.stop
      ⟨{ s with console := o.state, buzzer := buzzer, hasExit := true }, requests ++ [.close],
        lines ++ ["Emulation error: " ++ f.message], .ok ()⟩
    | .error e => ⟨{ s with console := o.state }, [], lines, .error e⟩

/-- Paint the window, with a new picture if a redraw was asked for. -/
def paint (s : Session) : Reaction :=
  let (console, needed) := s.console.consumeDraw
  let image := if needed then .ofDisplay s.scale console.core.memory.display else s.image
  let update := if needed then [.setPicture (4 * s.width) image] else []
  let label := if console.paused then [.drawLabel] else []
  ⟨{ s with console := console, image := image }, .clear :: update ++ [.blit 0 0] ++ label, [],
    .ok ()⟩

def toneEnded (s : Session) (player : Nat) : Reaction :=
  let (buzzer, requests) := s.buzzer.ended player
  ⟨{ s with buzzer := buzzer }, requests, [], .ok ()⟩

/-- Stop everything and leave the rest to the window system, which is taken to leave `hasExit` as it
is and to ask for no further `close`. -/
def close (s : Session) : Reaction :=
  let (buzzer, requests) := s.buzzer.stop
  ⟨{ s with console := s.console.stop, buzzer := buzzer },
    .unschedule :: requests ++ [.defaultClose], s.printed #["Window closed"], .ok ()⟩

def handle (s : Session) : Event → Reaction
  | .keyDown key => s.keyDown key
  | .keyUp key => s.keyUp key
  | .frameDue => s.frameDue
  | .paint => s.paint
  | .toneEnded player => s.toneEnded player
  | .close => s.close
  | .command command => s.follow ((s.console.obey command).andThen fun _ c => .done c ())

/-- The session after a row of events. -/
def handleAll (s : Session) (events : List Event) : Session :=
  events.foldl (fun s event => (s.handle event).session) s

end Session
end Chip8
