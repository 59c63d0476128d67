/-
Cartridges: programs that fit into memory, with the name they were loaded under.

Cartridges are made of bytes or of files.  A file that is there need not be one that can be read.
-/
import Chip8.Storage.Memory
import Chip8.Text.Quoted

namespace Chip8

/-- A regular file: its size as the file system gives it, and what comes of reading it. -/
structure File where
  size : Nat
  content : Except Failure (List UInt8)

/-- A file that can be read and that has the size that it is said to have. -/
def File.ofBytes (bytes : List UInt8) : File := ⟨bytes.length, .ok bytes⟩

structure Cartridge where
  bytes : List UInt8
  name : String
  fits : bytes.length ≤ programRoom

namespace Cartridge

/-- A cartridge of the bytes, unless there are too many. -/
def ofBytes (bytes : List UInt8) (name : String) : Except Error Cartridge :=
  if h : bytes.length ≤ programRoom then .ok ⟨bytes, name, h⟩
  else .error (.tooLarge bytes.length programRoom)

/-- A cartridge of what has been read. -/
def ofContent (content : Except Failure (List UInt8)) (name : String) : Except Error Cartridge :=
  match content with
  | .error failure => .error (.outside failure)
  | .ok bytes => ofBytes bytes name

/-- What is logged before the file of a cartridge is read. -/
def loadingLine (path : String) : String := "Loading ROM: " ++ path

/-- The cartridge in the file at a path.  A file that is said to be too large is not read, and what
has been read is measured again. -/
def ofFile (file? : String → Option File) (path : String) : Outcome Unit Cartridge :=
  match file? path with
  | none => .failed () (.notFound path)
  | some file =>
    if programRoom < file.size then .failed () (.tooLarge file.size programRoom)
    else ⟨(), ofContent file.content path, #[loadingLine path]⟩

/-- The byte at a position; negative positions count back from the end. -/
def byteAt (c : Cartridge) (position : Int) : Except Error UInt8 :=
  let k := if position < 0 then position + c.bytes.length else position
  if k < 0 then .error .noByte
  else match c.bytes[k.toNat]? with
    | some b => .ok b
    | none => .error .noByte

/-- The quoted name and the size. -/
def text (c : Cartridge) : String :=
  "<Rom " ++ Text.quoted c.name ++ " " ++ c.bytes.length.repr ++ " bytes>"

theorem ofBytes_ok {bytes : List UInt8} {name : String} (h : bytes.length ≤ programRoom) :
    ofBytes bytes name = .ok ⟨bytes, name, h⟩ := by
  simp [ofBytes, h]

end Cartridge
end Chip8
