/-
Events and pictures as text, for a session without a window system.

An event is a line such as `down Q`, `up Q`, `frame`, `paint`, `ended 1` or `close`.
-/
import Chip8.Desktop.Session

namespace Chip8

/-- The event that a line stands for. -/
def Event.ofLine? (line : String) : Option Event :=
  match line.splitOn " " with
  | ["down", name] => some (.keyDown (Key.ofName name))
  | ["up", name] => some (.keyUp (Key.ofName name))
  | ["frame"] => some .frameDue
  | ["paint"] => some .paint
  | ["ended", player] => player.toNat?.map .toneEnded
  | ["close"] => some .close
  | _ => none

/-- The rows of the display, a hash for a pixel that is on and a point for one that is off. -/
def Display.text (d : Display) : List String :=
  d.rows.map fun row => String.ofList (row.map fun lit => if lit then '#' else '.')

/-- The lines to show after an event: what was printed, and the display if it was painted anew. -/
def Reaction.text (r : Reaction) : List String :=
  let painted := r.requests.any fun request =>
    match request with
    | .setPicture _ _ => true
    | _ => false
  r.printed ++ if painted then r.session.console.core.memory.display.text else []

end Chip8
