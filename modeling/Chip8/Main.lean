/-
The command line program.

It launches from its arguments and then takes the events of its session from standard input, one
line each, until the window is closed or the input ends.
-/
import Chip8.Desktop.Script
import Chip8.Launch

namespace Chip8

/-- An endless stream of bytes scattered by a seed. -/
def Noise.ofSeed (seed : Nat) : Noise :=
  ⟨fun k => UInt8.ofNat ((seed + k) * 2654435761 / 65536), 0⟩

/-- The program file that a command line names, if there is one. -/
def findProgram (args : List String) : IO (Option File) :=
  match (CommandLine.parse false args).result with
  | .ok (some options) => do
    try
      return some (.ofBytes (← IO.FS.readBinFile options.rom).toList)
    catch
      | .noFileOrDirectory .. | .inappropriateType .. => return none
      | e => return some ⟨0, .error ⟨"OSError", e.toString⟩⟩
  | _ => return none

/-- Take events from the input until it ends or the window is closed. -/
partial def play (input : IO.FS.Stream) (session : Session) : IO Unit := do
  let line ← input.getLine
  unless line.isEmpty || session.hasExit do
    match Event.ofLine? line.trimAscii.toString with
    | none => play input session
    | some event =>
      let reaction := session.handle event
      for text in reaction.text do
        IO.println text
      match reaction.result, event with
      | .error e, _ => IO.eprintln e.message
      | .ok (), .close => return ()
      | .ok (), _ => play input reaction.session

end Chip8

def main (args : List String) : IO UInt32 := do
  let program ← Chip8.findProgram args
  let host : Chip8.Host := ⟨fun _ => program, Chip8.Picture.addressable⟩
  let noise := Chip8.Noise.ofSeed (← IO.rand 0 4294967295)
  let launch := Chip8.Launch.ofArgs host noise args
  IO.print launch.printed
  match launch.exit, launch.opened? with
  | .error e, _ => do
    IO.eprintln e.message
    return 1
  | .ok code, none => return code.toUInt32
  | .ok code, some (session, _) => do
    Chip8.play (← IO.getStdin) session
    return code.toUInt32
