/-
Instructions and their decoding.

An `Instr` holds exactly the operands that matter to it: a shift names one register, although its
word has a second register field.  Words that fit no pattern decode to `unknown`, which keeps the
word, so decoding never fails.
-/
import Chip8.Instr.Opcode
import Chip8.Instr.Word

namespace Chip8

inductive Instr where
  /-- Turn all pixels off. -/
  | clear
  /-- Return from a subroutine. -/
  | ret
  /-- A machine-code routine of the first hardware; does nothing here. -/
  | sys (addr : Addr)
  | jump (addr : Addr)
  | call (addr : Addr)
  | skipEqByte (x : Reg) (kk : UInt8)
  | skipNeByte (x : Reg) (kk : UInt8)
  | skipEq (x y : Reg)
  | loadByte (x : Reg) (kk : UInt8)
  | addByte (x : Reg) (kk : UInt8)
  | copy (x y : Reg)
  | or (x y : Reg)
  | and (x y : Reg)
  | xor (x y : Reg)
  | add (x y : Reg)
  | sub (x y : Reg)
  | shiftRight (x : Reg)
  /-- Vx becomes Vy minus Vx. -/
  | subFrom (x y : Reg)
  | shiftLeft (x : Reg)
  | skipNe (x y : Reg)
  | loadIndex (addr : Addr)
  /-- Jump to the address plus V0. -/
  | jumpOffset (addr : Addr)
  /-- Vx becomes a random byte restricted to the bits of `kk`. -/
  | random (x : Reg) (kk : UInt8)
  /-- Draw the `n` bytes at I as a sprite at (Vx, Vy). -/
  | draw (x y : Reg) (n : Fin 16)
  | skipKey (x : Reg)
  | skipNoKey (x : Reg)
  | readDelay (x : Reg)
  | awaitKey (x : Reg)
  | setDelay (x : Reg)
  | setSound (x : Reg)
  | addIndex (x : Reg)
  /-- Point I at the font sprite of the digit Vx. -/
  | fontIndex (x : Reg)
  /-- Write the three decimal digits of Vx at I. -/
  | storeDecimal (x : Reg)
  /-- Write V0 to Vx at I. -/
  | storeRegs (x : Reg)
  /-- Read V0 to Vx from I. -/
  | loadRegs (x : Reg)
  | unknown (word : Word)
  deriving DecidableEq, Repr

namespace Instr

/-- Register arithmetic, told apart by the last nibble. -/
def decodeArithmetic (w : Word) : Instr :=
  match w.n.val with
  | 0x0 => .copy w.x w.y
  | 0x1 => .or w.x w.y
  | 0x2 => .and w.x w.y
  | 0x3 => .xor w.x w.y
  | 0x4 => .add w.x w.y
  | 0x5 => .sub w.x w.y
  | 0x6 => .shiftRight w.x
  | 0x7 => .subFrom w.x w.y
  | 0xE => .shiftLeft w.x
  | _ => .unknown w

/-- Timers, keys and memory transfers, told apart by the low byte. -/
def decodeTransfer (w : Word) : Instr :=
  match w.kk.toNat with
  | 0x07 => .readDelay w.x
  | 0x0A => .awaitKey w.x
  | 0x15 => .setDelay w.x
  | 0x18 => .setSound w.x
  | 0x1E => .addIndex w.x
  | 0x29 => .fontIndex w.x
  | 0x33 => .storeDecimal w.x
  | 0x55 => .storeRegs w.x
  | 0x65 => .loadRegs w.x
  | _ => .unknown w

def decode (w : Word) : Instr :=
  match w.family with
  | 0x0 =>
    if w.addr.val = 0x0E0 then .clear
    else if w.addr.val = 0x0EE then .ret
    else .sys w.addr
  | 0x1 => .jump w.addr
  | 0x2 => .call w.addr
  | 0x3 => .skipEqByte w.x w.kk
  | 0x4 => .skipNeByte w.x w.kk
  | 0x5 => .skipEq w.x w.y
  | 0x6 => .loadByte w.x w.kk
  | 0x7 => .addByte w.x w.kk
  | 0x8 => decodeArithmetic w
  | 0x9 => .skipNe w.x w.y
  | 0xA => .loadIndex w.addr
  | 0xB => .jumpOffset w.addr
  | 0xC => .random w.x w.kk
  | 0xD => .draw w.x w.y w.n
  | 0xE =>
    if w.kk.toNat = 0x9E then .skipKey w.x
    else if w.kk.toNat = 0xA1 then .skipNoKey w.x
    else .unknown w
  | _ => decodeTransfer w

def opcode : Instr → Opcode
  | .clear => .clear
  | .ret => .ret
  | .sys _ => .sys
  | .jump _ => .jump
  | .call _ => .call
  | .skipEqByte _ _ => .skipEqByte
  | .skipNeByte _ _ => .skipNeByte
  | .skipEq _ _ => .skipEq
  | .loadByte _ _ => .loadByte
  | .addByte _ _ => .addByte
  | .copy _ _ => .copy
  | .or _ _ => .or
  | .and _ _ => .and
  | .xor _ _ => .xor
  | .add _ _ => .add
  | .sub _ _ => .sub
  | .shiftRight _ => .shiftRight
  | .subFrom _ _ => .subFrom
  | .shiftLeft _ => .shiftLeft
  | .skipNe _ _ => .skipNe
  | .loadIndex _ => .loadIndex
  | .jumpOffset _ => .jumpOffset
  | .random _ _ => .random
  | .draw _ _ _ => .draw
  | .skipKey _ => .skipKey
  | .skipNoKey _ => .skipNoKey
  | .readDelay _ => .readDelay
  | .awaitKey _ => .awaitKey
  | .setDelay _ => .setDelay
  | .setSound _ => .setSound
  | .addIndex _ => .addIndex
  | .fontIndex _ => .fontIndex
  | .storeDecimal _ => .storeDecimal
  | .storeRegs _ => .storeRegs
  | .loadRegs _ => .loadRegs
  | .unknown _ => .unknown

end Instr
end Chip8
