/-
Main memory: 4096 bytes.

Reading and writing from outside go through `Ram.check`, which faults with the first address that
is not there.  Inside, `Ram.byte` reads zero and `Ram.put` does nothing at an address that is not
there; callers check first.

* `Ram.check_eq_ok_iff` : a stretch of addresses passes exactly if all of it is there;
* `Ram.byte_put`, `Ram.byte_splice` : what is read after one byte, and after a row of bytes, has
  been written;
* `Ram.byte_splice_inside`, `Ram.byte_splice_outside` : a row of bytes that fits lies there, and
  around it nothing changes;
* `Ram.getElem?_slice` : the bytes of a stretch of memory;
* `Ram.ext_byte` : memories that read the same everywhere are the same.
-/
import Chip8.Fault

namespace Chip8

structure Ram where
  bytes : Vector UInt8 4096
  deriving DecidableEq

namespace Ram

/-- The number of bytes. -/
def size : Nat := 4096

def zero : Ram := ⟨Vector.replicate 4096 0⟩

def byte (m : Ram) (a : Nat) : UInt8 := m.bytes[a]?.getD 0

def put (m : Ram) (a : Nat) (b : UInt8) : Ram := ⟨m.bytes.setIfInBounds a b⟩

/-- Write a row of bytes from an address on. -/
def splice (m : Ram) (a : Nat) : List UInt8 → Ram
  | [] => m
  | b :: rest => (m.put a b).splice (a + 1) rest

/-- The `n` bytes from an address on. -/
def slice (m : Ram) (a n : Nat) : List UInt8 := (List.range n).map fun k => m.byte (a + k)

/-- Fault unless the addresses from `address` to `address + length - 1` exist. -/
def check (address length : Int) : Except Error Unit :=
  if address < 0 then .error (Cause.outOfBounds address).raise
  else if 4096 ≤ address + length - 1 then .error (Cause.outOfBounds (max address 4096)).raise
  else .ok ()

def read (m : Ram) (address : Int) : Except Error UInt8 := do
  check address 1
  return m.byte address.toNat

/-- The big-endian word at an address. -/
def readWord (m : Ram) (address : Int) : Except Error Word := do
  check address 2
  return Word.ofBytes (m.byte address.toNat) (m.byte (address.toNat + 1))

/-- Write the low eight bits of a value. -/
def write (m : Ram) (address value : Int) : Except Error Ram := do
  check address 1
  return m.put address.toNat (UInt8.ofNat (value % 256).toNat)

/-- One line of sixteen bytes: the address of the first, then eight groups of two bytes. -/
def dumpLine (m : Ram) (line : Nat) : String :=
  Hex.lower 4 (16 * line) ++ " " ++ String.intercalate " "
    ((List.range 8).map fun group => Hex.ofBytes (m.slice (16 * line + 2 * group) 2))

def dump (m : Ram) : List String := (List.range 256).map m.dumpLine

theorem check_eq_ok_iff {address length : Int} :
    check address length = .ok () ↔ 0 ≤ address ∧ address + length ≤ 4096 := by
  unfold check
  constructor
  · intro h
    split at h
    · simp at h
    · split at h
      · simp at h
      · omega
  · rintro ⟨h0, h1⟩
    rw [if_neg (by omega), if_neg (by omega)]

theorem byte_zero (a : Nat) : zero.byte a = 0 := by
  rw [byte, zero, Vector.getElem?_replicate]
  split <;> rfl

theorem byte_put (m : Ram) (a k : Nat) (b : UInt8) :
    (m.put a b).byte k = if a = k ∧ a < 4096 then b else m.byte k := by
  unfold put byte
  by_cases hak : a = k <;> by_cases ha : a < 4096 <;>
    simp [Vector.getElem?_setIfInBounds, hak, ha]
  · subst hak
    simp [ha]
  · subst hak
    simp [ha]

theorem byte_eq_zero_of_le (m : Ram) {k : Nat} (h : 4096 ≤ k) : m.byte k = 0 := by
  simp [byte, h]

theorem byte_splice (m : Ram) (a k : Nat) (row : List UInt8) :
    (m.splice a row).byte k =
      if a ≤ k ∧ k < a + row.length ∧ k < 4096 then row[k - a]?.getD 0 else m.byte k := by
  induction row generalizing m a with
  | nil =>
    simp only [splice, List.length_nil]
    rw [if_neg (by omega)]
  | cons b rest ih =>
    simp only [splice, ih, byte_put, List.length_cons]
    rcases Nat.lt_trichotomy k a with h | h | h
    · rw [if_neg (by omega), if_neg (by omega), if_neg (by omega)]
    · subst h
      by_cases hk : k < 4096
      · rw [if_neg (by omega), if_pos ⟨rfl, hk⟩, if_pos (by omega)]
        simp
      · rw [if_neg (by omega), if_neg (by omega), if_neg (by omega)]
    · by_cases hk : k < a + 1 + rest.length ∧ k < 4096
      · rw [if_pos (by omega), if_pos (by omega)]
        rw [show k - a = (k - (a + 1)) + 1 by omega, List.getElem?_cons_succ]
      · rw [if_neg (by omega), if_neg (by omega), if_neg (by omega)]

theorem byte_splice_inside (m : Ram) {a k : Nat} {row : List UInt8} (hfits : a + row.length ≤ 4096)
    (hk : k < row.length) : (m.splice a row).byte (a + k) = row[k] := by
  rw [byte_splice, if_pos (by omega), Nat.add_sub_cancel_left, List.getElem?_eq_getElem hk]
  rfl

theorem byte_splice_outside (m : Ram) {a k : Nat} {row : List UInt8}
    (hk : k < a ∨ a + row.length ≤ k) : (m.splice a row).byte k = m.byte k := by
  rw [byte_splice, if_neg (by omega)]

theorem length_slice (m : Ram) (a n : Nat) : (m.slice a n).length = n := by
  simp [slice]

theorem getElem?_slice (m : Ram) (a n k : Nat) :
    (m.slice a n)[k]? = if k < n then some (m.byte (a + k)) else none := by
  rw [slice, List.getElem?_map]
  split
  · next hk => rw [List.getElem?_range hk, Option.map_some]
  · next hk => rw [List.getElem?_eq_none (by simpa using hk), Option.map_none]

theorem ext_byte {m m' : Ram} (h : ∀ k, k < 4096 → m.byte k = m'.byte k) : m = m' := by
  cases m with | mk v =>
  cases m' with | mk v' =>
  congr
  apply Vector.ext
  intro k hk
  simpa [byte, hk] using h k hk

end Ram
end Chip8
