/-
From a command line to an open session.

A command line that cannot be read, or that names no program that fits, ends with exit code one and
the reason; a request for help ends with code zero and the usage.  Otherwise the program is put
into a new console, the console is started, and one window is opened on it.  Errors of what is
outside, of a file that cannot be read or a picture that cannot be made, escape.
-/
import Chip8.CommandLine
import Chip8.Desktop.Session

namespace Chip8

/-- What a launch finds outside the program. -/
structure Host where
  /-- The regular file that a path leads to. -/
  file? : String → Option File
  /-- What comes of making a picture of a scale. -/
  pictures : Int → Except Error Unit

structure Launch where
  /-- The exit code, unless an error escapes. -/
  exit : Except Error Nat
  /-- What has been printed before the window system took over. -/
  printed : String
  logsOn : Bool
  /-- The session that was opened and what it asked for. -/
  opened? : Option (Session × List Request)

namespace Launch

/-- Lines of output. -/
def unlines (lines : List String) : String := String.join (lines.map (· ++ "\n"))

/-- What is printed of a log. -/
def logged (logsOn : Bool) (log : Array String) : String :=
  if logsOn then unlines log.toList else ""

/-- Launch without a window. -/
def quit (code : Nat) (printed : String) (logsOn : Bool) : Launch :=
  ⟨.ok code, printed, logsOn, none⟩

/-- Launch that an error ends. -/
def escape (e : Error) (printed : String) (logsOn : Bool) : Launch :=
  ⟨.error e, printed, logsOn, none⟩

/-- Launch from an error of the program file. -/
def reject (e : Error) (printed : String) (logsOn : Bool) : Launch :=
  if e.refusesProgram then quit 1 (printed ++ unlines [e.message]) logsOn
  else escape e printed logsOn

/-- Put a cartridge into a new console, start it and open a session. -/
def play (pictures : Int → Except Error Unit) (options : CommandLine.Options)
    (cartridge : Cartridge) (noise : Noise) (printed : String) (logsOn : Bool) : Launch :=
  let console := Console.new options.ticks options.waitForKey noise
  let o := (console.insert cartridge).andThen fun () c => c.start
  let printed := printed ++ logged logsOn o.log
  match o.result >>= fun () => Session.ofScale pictures o.state options.scale logsOn with
  | .error e => escape e printed logsOn
  | .ok session => ⟨.ok 0, printed, logsOn, some (session, session.opening ++ [.run])⟩

/-- Launch from the arguments of a command line. -/
def ofArgs (host : Host) (noise : Noise) (args : List String) : Launch :=
  let parsed := CommandLine.parse false args
  match parsed.result with
  | .error e => quit 1 (unlines [e.message] ++ CommandLine.usage) parsed.logsOn
  | .ok none => quit 0 CommandLine.usage parsed.logsOn
  | .ok (some options) =>
    let o := Cartridge.ofFile host.file? options.rom
    let printed := logged parsed.logsOn o.log
    match o.result with
    | .error e => reject e printed parsed.logsOn
    | .ok cartridge => play host.pictures options cartridge noise printed parsed.logsOn

end Launch
end Chip8
