/-
The console: a core, the cartridge in it, and the switches and signals that a front end uses.

A console runs only with a cartridge in it.  Starting over from the cartridge (`Console.boot`)
clears the core and asks for a redraw; `Console.reset` also stops, unpauses and lifts all keys.
-/
import Chip8.Cartridge
import Chip8.Core.Basic
import Chip8.Outcome

namespace Chip8

structure Console where
  core : Core
  ticksPerFrame : Int
  running : Bool
  paused : Bool
  cartridge? : Option Cartridge
  /-- The display has to be shown again. -/
  drawNeeded : Bool
  /-- The tone sounds. -/
  tone : Bool
  /-- Instructions completed so far. -/
  cycles : Nat

namespace Console

/-- A new console: idle, without a cartridge. -/
def new (ticksPerFrame : Int) (waitForKey : Bool) (noise : Noise) : Console :=
  ⟨.initial waitForKey noise, ticksPerFrame, false, false, none, false, false, 0⟩

/-- Start over from the bytes of a cartridge. -/
def boot (c : Console) (cartridge : Cartridge) : Outcome Console Unit :=
  let cleared := { c with core := c.core.withRegisters .zero }
  let loaded := (c.core.memory.load cartridge.bytes programStart).within fun memory =>
    { cleared with core := { cleared.core with memory := memory } }
  loaded.andThen fun () c =>
    .done { c with
      core := { c.core with
        registers := { c.core.registers with pc := programStart }
        drawn := false }
      drawNeeded := true
      tone := false } ()

/-- Put a cartridge in and start over from it; refused while running. -/
def insert (c : Console) (cartridge : Cartridge) : Outcome Console Unit :=
  if c.running then .failed c .alreadyRunning
  else { c with cartridge? := some cartridge }.boot cartridge

/-- Put bytes in as a cartridge without a name. -/
def load (c : Console) (bytes : List UInt8) : Outcome Console Unit :=
  if c.running then .failed c .alreadyRunning
  else match Cartridge.ofBytes bytes "" with
    | .error e => .failed c e
    | .ok cartridge => c.insert cartridge

def start (c : Console) : Outcome Console Unit :=
  if c.cartridge?.isNone then .failed c .nothingLoaded else .done { c with running := true } ()

def stop (c : Console) : Console := { c with running := false }

/-- Stop, unpause, lift all keys, and start over from the cartridge if there is one. -/
def reset (c : Console) : Outcome Console Unit :=
  let idle := { c with running := false, paused := false, core := { c.core with keys := .allUp } }
  let cleared := match c.cartridge? with
    | some cartridge => idle.boot cartridge
    | none => .done { idle with
        core := { idle.core with registers := .zero, memory := .initial } } ()
  cleared.thenLog "Emulator reset"

/-- The text of a truth value in logs. -/
def truthText (b : Bool) : String := if b then "True" else "False"

/-- Pause or go on; the answer is whether the console is paused now. -/
def togglePause (c : Console) : Outcome Console Bool :=
  ⟨{ c with paused := !c.paused }, .ok (!c.paused), #["paused: " ++ truthText (!c.paused)]⟩

def press (c : Console) (key : Int) : Console :=
  { c with core := { c.core with keys := c.core.keys.press key } }

def release (c : Console) (key : Int) : Console :=
  { c with core := { c.core with keys := c.core.keys.release key } }

/-- Whether a redraw was asked for, and the console with the request taken. -/
def consumeDraw (c : Console) : Console × Bool := ({ c with drawNeeded := false }, c.drawNeeded)

end Console
end Chip8
