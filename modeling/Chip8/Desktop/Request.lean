/-
What a session asks of the windowing and sound system, in the order it asks.

Requests are taken to be granted.  Only the first picture of a session may be refused, and then
there is no session.
-/
import Chip8.Desktop.Picture
import Chip8.Text.Binary64

namespace Chip8

inductive Request where
  | openWindow (width height : Nat) (caption : String) (resizable : Bool)
  /-- Make the image that is shown, with a first picture. -/
  | makeImage (width height : Nat) (picture : Picture)
  /-- Make a text label, centred on a point. -/
  | makeLabel (text : String) (fontSize x y : Nat) (colour : Colour)
  /-- Report a frame as due every so many seconds. -/
  | schedule (seconds : Binary64)
  | unschedule
  /-- Hand over to the system until the window is closed. -/
  | run
  | clear
  /-- Give the image a new picture; `pitch` is the number of bytes of a row. -/
  | setPicture (pitch : Nat) (picture : Picture)
  | blit (x y : Nat)
  | drawLabel
  | close
  /-- Let the system do what it does when a window is closed. -/
  | defaultClose
  /-- Give a new player a sine wave to play. -/
  | queue (player : Nat) (seconds : Binary64) (frequency : Int) (sampleRate : Nat)
  | play (player : Nat)
  | pause (player : Nat)
  | delete (player : Nat)

end Chip8
