/-
The thirty-six operations of the machine.

Their names give the operation and the form of its operands, so that `SE_VX_KK` (compare with a
byte) and `SE_VX_VY` (compare with a register) are two operations.
-/
namespace Chip8

inductive Opcode where
  | clear
  | ret
  | sys
  | jump
  | call
  | skipEqByte
  | skipNeByte
  | skipEq
  | loadByte
  | addByte
  | copy
  | or
  | and
  | xor
  | add
  | sub
  | shiftRight
  | subFrom
  | shiftLeft
  | skipNe
  | loadIndex
  | jumpOffset
  | random
  | draw
  | skipKey
  | skipNoKey
  | readDelay
  | awaitKey
  | setDelay
  | setSound
  | addIndex
  | fontIndex
  | storeDecimal
  | storeRegs
  | loadRegs
  | unknown
  deriving DecidableEq, Repr

def Opcode.name : Opcode → String
  | .clear => "CLS"
  | .ret => "RET"
  | .sys => "SYS"
  | .jump => "JP"
  | .call => "CALL"
  | .skipEqByte => "SE_VX_KK"
  | .skipNeByte => "SNE_VX_KK"
  | .skipEq => "SE_VX_VY"
  | .loadByte => "LD_VX_KK"
  | .addByte => "ADD_VX_KK"
  | .copy => "LD_VX_VY"
  | .or => "OR_VX_VY"
  | .and => "AND_VX_VY"
  | .xor => "XOR_VX_VY"
  | .add => "ADD_VX_VY"
  | .sub => "SUB_VX_VY"
  | .shiftRight => "SHR_VX"
  | .subFrom => "SUBN_VX_VY"
  | .shiftLeft => "SHL_VX"
  | .skipNe => "SNE_VX_VY"
  | .loadIndex => "LD_I"
  | .jumpOffset => "JP_V0"
  | .random => "RND_VX_KK"
  | .draw => "DRW_VX_VY"
  | .skipKey => "SKP_VX"
  | .skipNoKey => "SKNP_VX"
  | .readDelay => "LD_VX_DT"
  | .awaitKey => "LD_VX_K"
  | .setDelay => "LD_DT_VX"
  | .setSound => "LD_ST_VX"
  | .addIndex => "ADD_I_VX"
  | .fontIndex => "LD_F_VX"
  | .storeDecimal => "LD_B_VX"
  | .storeRegs => "LD_I_VX"
  | .loadRegs => "LD_VX_I"
  | .unknown => "UNKNOWN"

end Chip8
