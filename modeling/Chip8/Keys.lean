/-
The sixteen keys of the keypad.

Keys are asked for by any integer; a number outside 0 to 15 names no key, is never down, and
pressing or releasing it does nothing.

* `Keys.down_press`, `Keys.down_release` : only the named key changes.
-/
namespace Chip8

structure Keys where
  pressed : Vector Bool 16
  deriving DecidableEq

namespace Keys

def allUp : Keys := ⟨Vector.replicate 16 false⟩

/-- Make a key down or up. -/
def set (keys : Keys) (key : Int) (down : Bool) : Keys :=
  if 0 ≤ key then ⟨keys.pressed.setIfInBounds key.toNat down⟩ else keys

def press (keys : Keys) (key : Int) : Keys := keys.set key true

def release (keys : Keys) (key : Int) : Keys := keys.set key false

def down (keys : Keys) (key : Int) : Bool :=
  decide (0 ≤ key) && keys.pressed[key.toNat]?.getD false

/-- The lowest key that is down, of the keys 0 to 14. -/
def first? (keys : Keys) : Option Nat := (List.range 15).find? fun (key : Nat) => keys.down key

/-- A number with bit `k` set for every key `k` that is down. -/
def bits (keys : Keys) : Nat :=
  (List.range 16).foldr (fun (key : Nat) rest => (keys.down key).toNat + 2 * rest) 0

theorem down_set (keys : Keys) (key other : Int) (down : Bool) :
    (keys.set key down).down other =
      if key = other ∧ 0 ≤ key ∧ key < 16 then down else keys.down other := by
  unfold set Keys.down
  by_cases h0 : 0 ≤ key
  · by_cases ho : 0 ≤ other
    · by_cases he : key = other
      · subst he
        by_cases h16 : key < 16
        · have : key.toNat < 16 := by omega
          simp [h0, h16, this]
        · have : ¬ key.toNat < 16 := by omega
          simp [h0, h16, this]
      · have : ¬ key.toNat = other.toNat := by omega
        simp [h0, ho, he, this]
    · have he : key ≠ other := by omega
      simp [ho, he]
  · simp [h0]

theorem down_press (keys : Keys) (key other : Int) :
    (keys.press key).down other =
      if key = other ∧ 0 ≤ key ∧ key < 16 then true else keys.down other :=
  down_set keys key other true

theorem down_release (keys : Keys) (key other : Int) :
    (keys.release key).down other =
      if key = other ∧ 0 ≤ key ∧ key < 16 then false else keys.down other :=
  down_set keys key other false

end Keys
end Chip8
