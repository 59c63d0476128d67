/-
Assembler text of instructions, such as `DRW V1, V2, 5`.

Registers are written with one hexadecimal digit, bytes with two, addresses with three, and the
height of a sprite in decimal.  A word that is no instruction is shown as `??? 0x8008`.
-/
import Chip8.Instr.Basic
import Chip8.Text.Hex

namespace Chip8

def Reg.text (x : Reg) : String := "V" ++ Hex.upper 1 x.val

def Addr.text (a : Addr) : String := "0x" ++ Hex.upper 3 a.val

namespace Instr

/-- A byte operand. -/
def byteText (b : UInt8) : String := "0x" ++ Hex.upper 2 b.toNat

/-- A name with a register and one more operand. -/
def withReg (name : String) (x : Reg) (operand : String) : String :=
  name ++ " " ++ x.text ++ ", " ++ operand

def mnemonic : Instr → String
  | .clear => "CLS"
  | .ret => "RET"
  | .sys a => "SYS " ++ a.text
  | .jump a => "JP " ++ a.text
  | .call a => "CALL " ++ a.text
  | .skipEqByte x kk => withReg "SE" x (byteText kk)
  | .skipNeByte x kk => withReg "SNE" x (byteText kk)
  | .skipEq x y => withReg "SE" x y.text
  | .loadByte x kk => withReg "LD" x (byteText kk)
  | .addByte x kk => withReg "ADD" x (byteText kk)
  | .copy x y => withReg "LD" x y.text
  | .or x y => withReg "OR" x y.text
  | .and x y => withReg "AND" x y.text
  | .xor x y => withReg "XOR" x y.text
  | .add x y => withReg "ADD" x y.text
  | .sub x y => withReg "SUB" x y.text
  | .shiftRight x => "SHR " ++ x.text
  | .subFrom x y => withReg "SUBN" x y.text
  | .shiftLeft x => "SHL " ++ x.text
  | .skipNe x y => withReg "SNE" x y.text
  | .loadIndex a => "LD I, " ++ a.text
  | .jumpOffset a => "JP V0, " ++ a.text
  | .random x kk => withReg "RND" x (byteText kk)
  | .draw x y n => withReg "DRW" x (y.text ++ ", " ++ n.val.repr)
  | .skipKey x => "SKP " ++ x.text
  | .skipNoKey x => "SKNP " ++ x.text
  | .readDelay x => withReg "LD" x "DT"
  | .awaitKey x => withReg "LD" x "K"
  | .setDelay x => "LD DT, " ++ x.text
  | .setSound x => "LD ST, " ++ x.text
  | .addIndex x => "ADD I, " ++ x.text
  | .fontIndex x => "LD F, " ++ x.text
  | .storeDecimal x => "LD B, " ++ x.text
  | .storeRegs x => "LD [I], " ++ x.text
  | .loadRegs x => withReg "LD" x "[I]"
  | .unknown w => "??? 0x" ++ Hex.upper 4 w.toNat

end Instr

/-- An instruction word as a value, such as `Instruction(0x00E0)`. -/
def Word.display (w : Word) : String := "Instruction(0x" ++ Hex.upper 4 w.toNat ++ ")"

end Chip8
