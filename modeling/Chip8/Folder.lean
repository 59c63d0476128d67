/-
A folder of files, and the paths that lead to them.

A path is followed part by part from the folder itself: an empty part or `.` stays, `..` goes up,
and any other part goes down.  Every part but the last needs a directory to start from, so a path
that ends in a slash leads to no file.  Paths that leave the folder lead nowhere, and neither do
paths of more than 4095 bytes.
-/
namespace Chip8

structure Folder where
  files : List (List String × List UInt8)
  dirs : List (List String)

namespace Folder

/-- The place that a part of a path leads to; nothing is above the folder itself. -/
def step (place : List String) (part : String) : List String :=
  if part = "" ∨ part = "." then place
  else if part = ".." then place.dropLast
  else place ++ [part]

/-- The place that a path leads to, such as `["d", "b"]` for `d/./b`. -/
def place (path : String) : List String := (path.splitOn "/").foldl step []

/-- The place that the parts of a path lead to from a place, and before it those on the way. -/
def trail (place : List String) : List String → List (List String)
  | [] => [place]
  | part :: rest => place :: trail (step place part) rest

/-- The directories on the way to the last part of a path. -/
def wayTo (path : String) : List (List String) := (trail [] (path.splitOn "/")).dropLast

/-- The folder with the named files and directories and the directories on the way to them; a
later file takes the place of an earlier. -/
def ofNames (files : List (String × List UInt8)) (dirs : List String) : Folder :=
  ⟨(files.map fun (path, bytes) => (place path, bytes)).reverse,
    (files.map (·.1) ++ dirs).flatMap wayTo ++ dirs.map place⟩

/-- Whether a place is a directory. -/
def isDir (f : Folder) (place : List String) : Bool := place.isEmpty || f.dirs.contains place

/-- The file at a place. -/
def fileAt? (f : Folder) (place : List String) : Option (List UInt8) :=
  (f.files.find? fun (file, _) => file = place).map (·.2)

/-- Follow the parts of a path from a place. -/
def follow? (f : Folder) (place : List String) : List String → Option (List UInt8)
  | [] => f.fileAt? place
  | part :: rest =>
    if !f.isDir place ∨ (part = ".." ∧ place.isEmpty) then none
    else f.follow? (step place part) rest

/-- The most bytes that a path can have. -/
def longestPath : Nat := 4095

/-- The bytes of the file that a path leads to. -/
def find? (f : Folder) (path : String) : Option (List UInt8) :=
  if path.startsWith "/" ∨ longestPath < path.utf8ByteSize then none
  else f.follow? [] (path.splitOn "/")

end Folder
end Chip8
