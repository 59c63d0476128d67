/-
Ticks and frames.

A tick fetches and runs one instruction.  A frame runs half of its ticks, counts the timers down
once, decides whether the tone sounds, and runs the other half.  A fault stops the console, after
whatever was drawn before it has been signalled.
-/
import Chip8.Console.Basic
import Chip8.Core.Execution
import Chip8.Core.Trace

namespace Chip8

/-- The signals of a frame. -/
structure Frame where
  /-- Something was drawn. -/
  draw : Bool
  /-- The tone sounds. -/
  tone : Bool
  deriving DecidableEq, Repr

namespace Console

/-- Turn the core's mark that it drew into a request for a redraw. -/
def signalDraw (c : Console) : Console :=
  { c with drawNeeded := c.drawNeeded || c.core.drawn, core := { c.core with drawn := false } }

/-- Stop on a fault, whose place is `place`; any other error passes through. -/
def halt (c : Console) (place : Place) (e : Error) : Outcome Console Unit :=
  match e.at place with
  | .fault f =>
    ⟨{ c.signalDraw with running := false }, .error (.fault f),
      #["Emulation halted: " ++ f.message]⟩
  | e => .failed c e

/-- Fetch an instruction and run it. -/
def tick (c : Console) : Outcome Console Unit :=
  let pc := c.core.registers.pc
  match c.core.fetch with
  | .error e => c.halt (.fetching pc) e
  | .ok (word, core) =>
    let i := Instr.decode word
    let o := core.execute i
    match o.result with
    | .error e => { c with core := o.state }.halt (.instruction pc word) e
    | .ok () =>
      ⟨{ c with core := o.state, cycles := c.cycles + 1 }, .ok (),
        (i.trace core o.state).toArray⟩

/-- Up to `n` ticks, ended by the first error; `log` holds the lines logged before them. -/
def ticksAfter (log : Array String) : Nat → Console → Outcome Console Unit
  | 0, c => ⟨c, .ok (), log⟩
  | n + 1, c =>
    let step := c.tick
    match step.result with
    | .ok () => ticksAfter (log ++ step.log) n step.state
    | .error e => ⟨step.state, .error e, log ++ step.log⟩

def ticks (n : Nat) (c : Console) : Outcome Console Unit := ticksAfter #[] n c

/-- Both timers go down by one. -/
def countDown (c : Console) : Console :=
  { c with core := c.core.withRegisters c.core.registers.countDown }

/-- The timer step of a frame: count down and see whether the tone sounds. -/
def timerStep (c : Console) : Console :=
  let counted := c.countDown
  { counted with tone := decide (0 < counted.core.registers.sound) }

/-- One frame.  An idle or paused console stays as it is. -/
def frame (c : Console) : Outcome Console Frame :=
  if !c.running || c.paused then .done c ⟨false, c.tone⟩
  else
    let half := c.ticksPerFrame / 2
    (c.ticks half.toNat).andThen fun () c₁ =>
      (c₁.timerStep.ticks (c.ticksPerFrame - half).toNat).andThen fun () c₂ =>
        .done c₂.signalDraw ⟨c₂.core.drawn, c₂.tone⟩

end Console
end Chip8
