/-
The line that is logged when an instruction has run.

It is read off the instruction and the machine before and after it, so that logging cannot change
what an instruction does.
-/
import Chip8.Core.Basic
import Chip8.Instr.Mnemonic

namespace Chip8.Instr

def skipLine (left relation right : String) : String :=
  "Skip next instruction: " ++ left ++ " " ++ relation ++ " " ++ right

/-- A number in decimal. -/
def decimal (z : Int) : String := z.repr

/-- The line for an instruction that ran without an error, if it has one. -/
def trace (before after : Core) : Instr → Option String
  | .clear => some "Clear the display (all pixels turned off)"
  | .ret => some ("Return to 0x" ++ Hex.lower 1 after.registers.pc.toNat)
  | .sys _ => some "SYS call ignored (0nnn)"
  | .jump a => some ("Jump to address 0x" ++ Hex.lower 1 a.val)
  | .call a => some ("Call subroutine at 0x" ++ Hex.lower 1 a.val)
  | .skipEqByte x kk =>
    if before.v x = kk.toNat then some (skipLine x.text "==" (decimal kk.toNat)) else none
  | .skipNeByte x kk =>
    if before.v x = kk.toNat then none else some (skipLine x.text "!=" (decimal kk.toNat))
  | .skipEq x y =>
    if before.v x = before.v y then some (skipLine x.text "==" y.text) else none
  | .loadByte x kk => some ("Set " ++ x.text ++ " = " ++ decimal kk.toNat)
  | .addByte x kk =>
    some ("Add " ++ decimal kk.toNat ++ " to " ++ x.text ++ ": " ++ decimal (after.v x))
  | .add x y =>
    some ("Add " ++ y.text ++ " to " ++ x.text ++ ": result " ++ decimal (after.v x) ++
      ", carry=" ++ decimal (after.v .flag))
  | .sub x y =>
    some ("Subtract " ++ y.text ++ " from " ++ x.text ++ ": result " ++ decimal (after.v x) ++
      ", NOT borrow=" ++ decimal (after.v .flag))
  | .subFrom x y =>
    some ("Set " ++ x.text ++ " = " ++ y.text ++ " - " ++ x.text ++ ": result " ++
      decimal (after.v x) ++ ", NOT borrow=" ++ decimal (after.v .flag))
  | .skipNe x y =>
    if before.v x = before.v y then none else some (skipLine x.text "!=" y.text)
  | .loadIndex a => some ("Set I = " ++ Hex.upper 3 a.val)
  | .jumpOffset a =>
    some ("Jump to address V0 + " ++ Hex.upper 3 a.val ++ " = " ++
      Hex.upperInt 3 after.registers.pc)
  | .random x kk =>
    some ("Set " ++ x.text ++ " = random_byte & " ++ decimal kk.toNat ++ " -> " ++
      decimal (after.v x))
  | .draw _ _ _ => some ("Drew sprite, collision=" ++ decimal (after.v .flag))
  | .awaitKey x =>
    before.keys.first?.map fun key => "Key " ++ Hex.upper 1 key ++ " stored in " ++ x.text
  | .unknown w => some ("Unknown opcode: " ++ Hex.upper 4 w.toNat)
  | _ => none

end Chip8.Instr
