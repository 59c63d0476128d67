/-
The commands that a front end gives to a console, one by one or in a row.
-/
import Chip8.Console.Frame

namespace Chip8

inductive Command where
  /-- Put bytes in as a cartridge. -/
  | load (bytes : List UInt8)
  | insert (cartridge : Cartridge)
  | start
  | stop
  | reset
  | togglePause
  | press (key : Int)
  | release (key : Int)
  | tick
  | frame
  | consumeDraw

/-- What a command answers. -/
inductive Reply where
  | nothing
  | flag (b : Bool)
  | frame (f : Frame)
  deriving DecidableEq, Repr

namespace Console

/-- A call that answers nothing, as a command. -/
def silent (o : Outcome Console Unit) : Outcome Console Reply :=
  o.andThen fun () c => .done c .nothing

def obey (c : Console) : Command → Outcome Console Reply
  | .load bytes => silent (c.load bytes)
  | .insert cartridge => silent (c.insert cartridge)
  | .start => silent c.start
  | .stop => .done c.stop .nothing
  | .reset => silent c.reset
  | .togglePause => c.togglePause.andThen fun b c => .done c (.flag b)
  | .press key => .done (c.press key) .nothing
  | .release key => .done (c.release key) .nothing
  | .tick => silent c.tick
  | .frame => c.frame.andThen fun f c => .done c (.frame f)
  | .consumeDraw => .done c.consumeDraw.1 (.flag c.consumeDraw.2)

/-- The console after a row of commands, those that fail included. -/
def obeyAll (c : Console) (commands : List Command) : Console :=
  commands.foldl (fun c command => (c.obey command).state) c

end Console
end Chip8
