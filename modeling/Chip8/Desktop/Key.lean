/-
The keys of the keyboard that mean something, and the keypad keys they stand for.

The four rows `1234`, `QWER`, `ASDF` and `ZXCV` stand for the rows `123C`, `456D`, `789E` and
`A0BF` of the keypad.

* `Key.pad?_inj` : no two keys of the keyboard stand for the same key;
* `Key.lt_of_pad?`, `Key.exists_pad?` : they stand for all sixteen keys and for nothing else.
-/
namespace Chip8

inductive Key where
  | one | two | three | four
  | q | w | e | r
  | a | s | d | f
  | z | x | c | v
  | escape | f1 | f5
  | other (name : String)
  deriving DecidableEq, Repr

namespace Key

/-- The keys with a meaning, by name. -/
def named : List (String × Key) :=
  [("_1", .one), ("_2", .two), ("_3", .three), ("_4", .four),
   ("Q", .q), ("W", .w), ("E", .e), ("R", .r),
   ("A", .a), ("S", .s), ("D", .d), ("F", .f),
   ("Z", .z), ("X", .x), ("C", .c), ("V", .v),
   ("ESCAPE", .escape), ("F1", .f1), ("F5", .f5)]

def ofName (name : String) : Key := (named.lookup name).getD (.other name)

/-- The key of the keypad that a key stands for. -/
def pad? : Key → Option Nat
  | .one => some 0x1 | .two => some 0x2 | .three => some 0x3 | .four => some 0xC
  | .q => some 0x4 | .w => some 0x5 | .e => some 0x6 | .r => some 0xD
  | .a => some 0x7 | .s => some 0x8 | .d => some 0x9 | .f => some 0xE
  | .z => some 0xA | .x => some 0x0 | .c => some 0xB | .v => some 0xF
  | .escape | .f1 | .f5 | .other _ => none

/-- The keys that stand for a key of the keypad. -/
def onPad : List Key := (named.map (·.2)).filter fun key => key.pad?.isSome

theorem pad?_inj {key key' : Key} {k : Nat} (h : key.pad? = some k) (h' : key'.pad? = some k) :
    key = key' := by
  cases key <;> simp only [pad?, Option.some.injEq, reduceCtorEq] at h <;> subst h <;>
    cases key' <;> simp_all [pad?]

theorem lt_of_pad? {key : Key} {k : Nat} (h : key.pad? = some k) : k < 16 := by
  cases key <;> simp only [pad?, Option.some.injEq, reduceCtorEq] at h <;> omega

theorem exists_pad? {k : Nat} (hk : k < 16) : ∃ key ∈ onPad, key.pad? = some k := by
  have all : ∀ i : Fin 16, ∃ key ∈ onPad, key.pad? = some i.val := by decide
  exact all ⟨k, hk⟩

end Key
end Chip8
