/-
The command line.

Arguments are scanned from left to right.  A request for help or a number that is missing ends the
scan; the first argument that is no option names the program, and later ones are ignored.  An
option that turns the logs on has its effect even if the scan fails later.
-/
import Chip8.Text.Numeral

namespace Chip8.CommandLine

/-- What a valid command line asks for. -/
structure Options where
  rom : String
  waitForKey : Bool
  ticks : Nat
  scale : Nat
  deriving DecidableEq, Repr

/-- An option that takes a number. -/
inductive Numbered where
  | ticks
  | scale
  deriving DecidableEq, Repr

def Numbered.name : Numbered → String
  | .ticks => "--ticks"
  | .scale => "--scale"

inductive ArgError where
  /-- No positive number follows the option. -/
  | noNumber (option : Numbered)
  /-- Digits follow that are not all decimal. -/
  | notDecimal (text : String)
  /-- A numeral of so many digits follows. -/
  | tooLong (digits : Nat)
  deriving DecidableEq, Repr

def ArgError.message : ArgError → String
  | .noNumber option => option.name ++ " expects a positive number"
  | .notDecimal text => "invalid literal for int() with base 10: " ++ Text.quotedStart text
  | .tooLong digits =>
    "Exceeds the limit (" ++ Text.maxDigits.repr ++
      " digits) for integer string conversion: value has " ++ digits.repr ++
      " digits; use sys.set_int_max_str_digits() to increase the limit"

/-- What an argument is, taken by itself. -/
inductive Arg where
  | help
  | logs
  | waitKey
  | numbered (option : Numbered)
  | name (text : String)
  deriving DecidableEq, Repr

def Arg.ofString (text : String) : Arg :=
  if text = "-h" ∨ text = "--help" then .help
  else if text = "--logs" then .logs
  else if text = "--wait-key" then .waitKey
  else if text = "--ticks" then .numbered .ticks
  else if text = "--scale" then .numbered .scale
  else .name text

/-- The positive number that follows an option. -/
def readNumber (option : Numbered) (text : String) : Except ArgError Nat :=
  match Text.Numeral.ofString text with
  | .notDigits => .error (.noNumber option)
  | .notDecimal => .error (.notDecimal text)
  | .tooLong digits => .error (.tooLong digits)
  | .value n => if n < 1 then .error (.noNumber option) else .ok n

/-- What has been read so far. -/
structure Settings where
  rom? : Option String
  waitForKey : Bool
  ticks : Nat
  scale : Nat
  logsOn : Bool
  deriving DecidableEq, Repr

/-- The settings before the first argument. -/
def Settings.default (logsOn : Bool) : Settings := ⟨none, false, 10, 10, logsOn⟩

def Settings.put (s : Settings) (option : Numbered) (n : Nat) : Settings :=
  match option with
  | .ticks => { s with ticks := n }
  | .scale => { s with scale := n }

/-- Take a name for the program's unless it has one. -/
def Settings.putName (s : Settings) (name : String) : Settings :=
  if s.rom?.isNone then { s with rom? := some name } else s

/-- How a scan ends. -/
inductive Ending where
  | complete
  | help
  | error (e : ArgError)
  deriving DecidableEq, Repr

def scan (s : Settings) : List String → Settings × Ending
  | [] => (s, .complete)
  | arg :: rest =>
    match Arg.ofString arg with
    | .help => (s, .help)
    | .logs => scan { s with logsOn := true } rest
    | .waitKey => scan { s with waitForKey := true } rest
    | .name text => scan (s.putName text) rest
    | .numbered option =>
      match rest with
      | [] => (s, .error (.noNumber option))
      | number :: rest =>
        match readNumber option number with
        | .error e => (s, .error e)
        | .ok n => scan (s.put option n) rest

/-- The outcome of reading a command line: options, or `none` where the usage is to be shown. -/
structure Parsed where
  result : Except ArgError (Option Options)
  logsOn : Bool

def parse (logsOn : Bool) (args : List String) : Parsed :=
  let (s, ending) := scan (.default logsOn) args
  let result := match ending with
    | .help => .ok none
    | .error e => .error e
    | .complete => .ok (s.rom?.map fun rom => ⟨rom, s.waitForKey, s.ticks, s.scale⟩)
  ⟨result, s.logsOn⟩

def usage : String :=
  "Usage: chip8emu [options] rom.ch8\n\n" ++
  "Options:\n" ++
  "  -h, --help      show this message and exit\n" ++
  "  --logs          print interpreter logs (toggle at runtime with F1)\n" ++
  "  --wait-key      Fx0A halts until a key is pressed\n" ++
  "  --ticks N       instructions per frame (default 10)\n" ++
  "  --scale N       window pixels per CHIP-8 pixel (default 10)\n"

end Chip8.CommandLine
