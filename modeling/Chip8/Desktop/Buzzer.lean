/-
The buzzer, which plays a tone while the sound timer runs.

Each tone has a player of its own; players are numbered from one.  A tone that is sounding is not
started again.  A player that reports the end of its tone is deleted, even if another one has taken
its place by then, and the buzzer counts as silent from then on.
-/
import Chip8.Desktop.Request

namespace Chip8

structure Buzzer where
  frequency : Int
  /-- How many seconds a tone lasts at most. -/
  duration : Binary64
  /-- The player of the current tone. -/
  player? : Option Nat
  /-- A tone was started and has neither ended nor been stopped. -/
  sounding : Bool
  /-- How many players there have been. -/
  players : Nat

namespace Buzzer

/-- A silent buzzer. -/
def silent (frequency : Int) (duration : Binary64) : Buzzer := ⟨frequency, duration, none, false, 0⟩

/-- The buzzer of a new session: 440 Hz for a fifth of a second. -/
def standard : Buzzer := silent 440 (.nearest false 1 5)

/-- Samples of the wave in a second. -/
def sampleRate : Nat := 44100

def start (b : Buzzer) : Buzzer × List Request :=
  if b.sounding then (b, [])
  else
    let player := b.players + 1
    ({ b with player? := some player, sounding := true, players := player },
      [.queue player b.duration b.frequency sampleRate, .play player])

def stop (b : Buzzer) : Buzzer × List Request :=
  let requests := match b.player? with
    | some player => [.pause player, .delete player]
    | none => []
  ({ b with player? := none, sounding := false }, requests)

/-- Start or stop. -/
def set (b : Buzzer) (tone : Bool) : Buzzer × List Request := if tone then b.start else b.stop

/-- A player has come to the end of its tone.  Numbers of no player are ignored. -/
def ended (b : Buzzer) (player : Nat) : Buzzer × List Request :=
  if player = 0 ∨ b.players < player then (b, [])
  else
    let current := if b.player? = some player then none else b.player?
    ({ b with player? := current, sounding := false }, [.delete player])

end Buzzer
end Chip8
