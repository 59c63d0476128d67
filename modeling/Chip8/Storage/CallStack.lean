/-
The call stack: sixteen return addresses.

The stack pointer counts the calls in progress.  A call stores into the slot after the one it
points to, so slot 0 is never used and fifteen calls can be open at once.  Slots are numbered from
0 to 15, and negative numbers count back from the end.  Reading and writing fail at a number of no
slot; writing then fails at a number of no word.

* `CallStack.position?_of_lt` : the slots 0 to 15 are named by their own numbers;
* `CallStack.slot?_of_put?` : what is in each slot after an address has been stored;
* `CallStack.write_eq_ok_iff` : exactly words are written, and exactly into the slots there are.
-/
import Chip8.Fault

namespace Chip8

structure CallStack where
  slots : Vector UInt16 16
  deriving DecidableEq

namespace CallStack

def empty : CallStack := ⟨Vector.replicate 16 0⟩

/-- The slot that a number names, if there is one. -/
def position? (k : Int) : Option Nat :=
  let j := if k < 0 then k + 16 else k
  if 0 ≤ j ∧ j < 16 then some j.toNat else none

/-- The address in a slot. -/
def slot? (s : CallStack) (k : Int) : Option UInt16 := (position? k).bind fun j => s.slots[j]?

/-- Store an address into a slot. -/
def put? (s : CallStack) (k : Int) (address : UInt16) : Option CallStack :=
  (position? k).map fun j => ⟨s.slots.setIfInBounds j address⟩

def read (s : CallStack) (k : Int) : Except Error UInt16 :=
  match s.slot? k with
  | none => .error (.ofSlot k)
  | some address => .ok address

def write (s : CallStack) (k value : Int) : Except Error CallStack :=
  match s.put? k (Word.ofInt value) with
  | none => .error (.ofSlot k)
  | some s' => if 0 ≤ value ∧ value < 65536 then .ok s' else .error (.ofWord value)

def toList (s : CallStack) : List Nat := s.slots.toList.map UInt16.toNat

theorem position?_of_lt {k : Int} (h0 : 0 ≤ k) (h : k < 16) : position? k = some k.toNat := by
  simp [position?, Int.not_lt.2 h0, h0, h]

theorem position?_lt {k : Int} {j : Nat} (h : position? k = some j) : j < 16 := by
  simp only [position?, Option.ite_none_right_eq_some, Option.some.injEq] at h
  omega

theorem slot?_of_put? {s s' : CallStack} {k j : Int} {address : UInt16}
    (h : s.put? k address = some s') :
    s'.slot? j = if position? k = position? j then some address else s.slot? j := by
  obtain ⟨p, hp, rfl⟩ := Option.map_eq_some_iff.1 h
  have hlt := position?_lt hp
  rw [hp]
  cases hj : position? j with
  | none => simp [slot?, hj]
  | some q =>
    simp only [slot?, hj, Option.bind_some, Option.some.injEq]
    rw [Vector.getElem?_setIfInBounds]
    by_cases hpq : p = q <;> simp [hpq]
    omega

theorem write_eq_ok_iff {s s' : CallStack} {k value : Int} :
    s.write k value = .ok s' ↔
      s.put? k (Word.ofInt value) = some s' ∧ 0 ≤ value ∧ value < 65536 := by
  unfold write
  cases s.put? k (Word.ofInt value) with
  | none => simp
  | some s'' => by_cases h : 0 ≤ value ∧ value < 65536 <;> simp [h]

end CallStack
end Chip8
