/-
What can go wrong.

A `Fault` is a fatal condition met while a program runs: its cause, and where it happened once the
scheduler has said so.  An `Error` is a fault, one of the refusals of the loading and starting
operations, or a failure of what is outside the program.  The wording of the former is here and
nowhere else; a failure outside brings its own.
-/
import Chip8.Instr.Word
import Chip8.Text.Numeral

namespace Chip8

/-- Why a program cannot go on. -/
inductive Cause where
  /-- An address outside memory was needed; the first such address. -/
  | outOfBounds (address : Int)
  /-- A return with nothing on the call stack. -/
  | stackUnderflow (sp : Int)
  /-- A call with no free slot on the call stack. -/
  | stackOverflow (sp : Int)
  deriving DecidableEq, Repr

/-- Where a program stopped. -/
inductive Place where
  | unknown
  /-- No instruction could be fetched at the address. -/
  | fetching (pc : Int)
  /-- The instruction `word` at the address. -/
  | instruction (pc : Int) (word : Word)
  deriving DecidableEq, Repr

structure Fault where
  cause : Cause
  place : Place
  deriving DecidableEq, Repr

/-- What is outside the program fails, such as the file system: the kind of the failure, and how it
is worded there. -/
structure Failure where
  kind : String
  wording : String
  deriving DecidableEq, Repr

inductive Error where
  | fault (fault : Fault)
  | outside (failure : Failure)
  /-- A program is longer than the room there is for it. -/
  | tooLarge (size limit : Nat)
  | notFound (name : String)
  | alreadyRunning
  | nothingLoaded
  /-- A number names no slot of the call stack. -/
  | noSlot (slot : Int)
  /-- A number that is to be stored is no word. -/
  | notWord (value : Int)
  /-- A number has more than 64 bits where one of 64 bits is needed. -/
  | tooWide
  /-- A picture would have fewer than no pixels. -/
  | negativeSize
  /-- A decimal digit that is to be stored is no byte. -/
  | notByte
  /-- Registers that are to be stored are not all bytes. -/
  | notBytes
  /-- A position that a program does not have. -/
  | noByte
  /-- A number has more decimal digits than are written. -/
  | tooManyDigits
  deriving DecidableEq, Repr

def Cause.message : Cause → String
  | .outOfBounds address => "Memory access out of bounds: 0x" ++ Hex.upperInt 4 address
  | .stackUnderflow _ => "Stack underflow on RET"
  | .stackOverflow _ => "Stack overflow on CALL"

def Place.message : Place → String
  | .unknown => ""
  | .fetching pc => " (fetching at 0x" ++ Hex.upperInt 3 pc ++ ")"
  | .instruction pc word =>
    " (instruction " ++ Hex.upper 4 word.toNat ++ " at 0x" ++ Hex.upperInt 3 pc ++ ")"

def Fault.message (f : Fault) : String := f.cause.message ++ f.place.message

/-- Whether a number fits into 64 bits with a sign. -/
def fits64 (z : Int) : Bool := -9223372036854775808 ≤ z && z < 9223372036854775808

/-- Numbers of more than 64 bits are not taken for slot numbers at all. -/
def noSlotMessage (slot : Int) : String :=
  if fits64 slot then
    "index " ++ slot.repr ++ " is out of bounds for axis 0 with size 16"
  else
    "only integers, slices (`:`), ellipsis (`...`), numpy.newaxis (`None`) " ++
      "and integer or boolean arrays are valid indices"

def Error.message : Error → String
  | .fault f => f.message
  | .outside failure => failure.wording
  | .tooLarge size limit =>
    "ROM is " ++ size.repr ++ " bytes, the maximum allowed size is " ++ limit.repr
  | .notFound name => "File does not exist: " ++ name
  | .alreadyRunning => "Cannot load rom, emulator is already running one."
  | .nothingLoaded => "Cannot start emulator, no ROM has been loaded."
  | .noSlot slot => noSlotMessage slot
  | .notWord value => "Python integer " ++ value.repr ++ " out of bounds for uint16"
  | .tooWide => "Python int too large to convert to C long"
  | .negativeSize => "negative dimensions are not allowed"
  | .notByte => "byte must be in range(0, 256)"
  | .notBytes => "bytes must be in range(0, 256)"
  | .noByte => "index out of range"
  | .tooManyDigits =>
    "Exceeds the limit (" ++ Text.maxDigits.repr ++ " digits) for integer string conversion; " ++
      "use sys.set_int_max_str_digits() to increase the limit"

/-- A program is refused before it is put into a console. -/
def Error.refusesProgram : Error → Bool
  | .tooLarge .. | .notFound _ => true
  | _ => false

/-- The error of a number that names no slot.  Numbers of 64 bits that leave no room for a sign are
taken for numbers of slots, but they are too wide. -/
def Error.ofSlot (slot : Int) : Error :=
  if 9223372036854775808 ≤ slot ∧ slot < 18446744073709551616 then .tooWide else .noSlot slot

/-- The error of a number that is no word. -/
def Error.ofWord (value : Int) : Error := if fits64 value then .notWord value else .tooWide

/-- A fault of which only the cause is known. -/
def Cause.raise (c : Cause) : Error := .fault ⟨c, .unknown⟩

/-- The same error with its place filled in, if it is a fault. -/
def Error.at (place : Place) : Error → Error
  | .fault f => .fault ⟨f.cause, place⟩
  | e => e

end Chip8
