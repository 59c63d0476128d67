/-
What each instruction does.

The program counter already points behind the instruction when it runs.  An instruction that needs
memory that is not there, or a byte from a number that is none, stops with an error before it has
changed anything.  So do calls and returns, if the stack pointer and the program counter are in
their ranges.
-/
import Chip8.Core.Basic
import Chip8.Instr.Bits

namespace Chip8.Core

/-- Vx becomes a number, and then VF a flag: the flag stays if both are the same register. -/
def putFlagged (c : Core) (x : Reg) (z : Int) (raised : Bool) : Core :=
  c.withRegisters ((c.registers.put x z).flag raised)

def put (c : Core) (x : Reg) (z : Int) : Core := c.withRegisters (c.registers.put x z)

def skipIf (c : Core) (condition : Bool) : Core := c.withRegisters (c.registers.skipIf condition)

def jump (c : Core) (pc : Int) : Core := c.withRegisters { c.registers with pc := pc }

def index (c : Core) (i : Int) : Core := c.withRegisters { c.registers with i := i }

/-- Write bytes to memory from I on, for an address I. -/
def store (c : Core) (row : List UInt8) : Core :=
  c.withRam (c.memory.ram.splice c.registers.i.toNat row)

/-- The registers V0 to Vx. -/
def upTo (c : Core) (x : Reg) : List Int := c.registers.v.toList.take (x.val + 1)

/-- Go back to the address on top of the call stack. -/
def ret (c : Core) : Outcome Core Unit :=
  let sp := c.registers.sp
  if sp = 0 then .failed c (Cause.stackUnderflow sp).raise
  else match c.memory.stack.read sp with
    | .error e => .failed c e
    | .ok address =>
      .done (c.withRegisters { c.registers with pc := address.toNat, sp := sp - 1 }) ()

/-- Keep the program counter on the call stack and go to an address.  The stack pointer has gone up
already when there turns out to be no slot, or when the program counter turns out to be no word. -/
def call (c : Core) (addr : Addr) : Outcome Core Unit :=
  let sp := c.registers.sp
  if 16 ≤ sp + 1 then .failed c (Cause.stackOverflow sp).raise
  else
    let raised := c.withRegisters { c.registers with sp := sp + 1 }
    match c.memory.stack.write (sp + 1) c.registers.pc with
    | .error e => .failed raised e
    | .ok stack => .done { raised.jump addr.val with memory := { c.memory with stack := stack } } ()

/-- Draw the `n` bytes at I at (Vx, Vy); VF tells whether a pixel went off. -/
def draw (c : Core) (x y : Reg) (n : Nat) : Core :=
  let touched := Display.sprite (c.v x) (c.v y) (c.atIndex n)
  let (display, collision) := c.memory.display.flipAll touched
  { c with
    registers := c.registers.flag collision
    memory := { c.memory with display := display }
    drawn := true }

/-- Take the lowest key that is down; with none down fall through, or repeat if set to wait. -/
def awaitKey (c : Core) (x : Reg) : Core :=
  match c.keys.first? with
  | some key => c.put x key
  | none => if c.waitForKey then c.jump ((c.registers.pc - 2) % 65536) else c

/-- Fail unless there are `n` bytes of memory from I on. -/
def reach (c : Core) (n : Nat) : Except Error Unit := Ram.check c.registers.i n

/-- Fail with an error unless all numbers are bytes. -/
def checkBytes (row : List Int) (e : Error) : Except Error Unit :=
  if row.all fun z => 0 ≤ z && z < 256 then .ok () else .error e

/-- The bytes that numbers in range stand for. -/
def bytes (row : List Int) : List UInt8 := row.map fun z => UInt8.ofNat z.toNat

/-- The last two decimal digits of a number, and before them all that is left of it. -/
def decimalDigits (z : Int) : List Int := [z / 100, z / 10 % 10, z % 10]

/-- Write numbers to memory from I on, which has to be there; `e` tells that not all are bytes. -/
def storeAll (c : Core) (row : List Int) (e : Error) : Outcome Core Unit :=
  .guarded c (c.reach row.length >>= fun () => checkBytes row e) (c.store (bytes row))

def execute (c : Core) : Instr → Outcome Core Unit
  | .clear => .done { c with memory := { c.memory with display := .blank }, drawn := true } ()
  | .ret => c.ret
  | .sys _ => .done c ()
  | .jump a => .done (c.jump a.val) ()
  | .call a => c.call a
  | .skipEqByte x kk => .done (c.skipIf (c.v x = kk.toNat)) ()
  | .skipNeByte x kk => .done (c.skipIf (c.v x ≠ kk.toNat)) ()
  | .skipEq x y => .done (c.skipIf (c.v x = c.v y)) ()
  | .loadByte x kk => .done (c.put x kk.toNat) ()
  | .addByte x kk => .done (c.put x ((c.v x + kk.toNat) % 256)) ()
  | .copy x y => .done (c.put x (c.v y)) ()
  | .or x y => .done (c.put x (Bits.or (c.v x) (c.v y))) ()
  | .and x y => .done (c.put x (Bits.and (c.v x) (c.v y))) ()
  | .xor x y => .done (c.put x (Bits.xor (c.v x) (c.v y))) ()
  | .add x y => .done (c.putFlagged x ((c.v x + c.v y) % 256) (255 < c.v x + c.v y)) ()
  | .sub x y => .done (c.putFlagged x ((c.v x - c.v y) % 256) (c.v y ≤ c.v x)) ()
  | .shiftRight x => .done (c.putFlagged x (c.v x / 2) (Bits.bit (c.v x) 0)) ()
  | .subFrom x y => .done (c.putFlagged x ((c.v y - c.v x) % 256) (c.v x ≤ c.v y)) ()
  | .shiftLeft x => .done (c.putFlagged x (c.v x * 2 % 256) (Bits.bit (c.v x) 7)) ()
  | .skipNe x y => .done (c.skipIf (c.v x ≠ c.v y)) ()
  | .loadIndex a => .done (c.index a.val) ()
  | .jumpOffset a => .done (c.jump (a.val + c.v .zero)) ()
  | .random x kk => .done { c.put x (c.noise.next &&& kk).toNat with noise := c.noise.rest } ()
  | .draw x y n =>
    if n.val = 0 then .done (c.draw x y n.val) ()
    else .guarded c (c.reach n.val) (c.draw x y n.val)
  | .skipKey x => .done (c.skipIf (c.keys.down (c.v x))) ()
  | .skipNoKey x => .done (c.skipIf (!c.keys.down (c.v x))) ()
  | .readDelay x => .done (c.put x c.registers.delay) ()
  | .awaitKey x => .done (c.awaitKey x) ()
  | .setDelay x => .done (c.withRegisters { c.registers with delay := c.v x }) ()
  | .setSound x => .done (c.withRegisters { c.registers with sound := c.v x }) ()
  | .addIndex x => .done (c.index ((c.registers.i + c.v x) % 65536)) ()
  | .fontIndex x => .done (c.index (Font.start + c.v x * Font.height)) ()
  | .storeDecimal x => c.storeAll (decimalDigits (c.v x)) .notByte
  | .storeRegs x => c.storeAll (c.upTo x) .notBytes
  | .loadRegs x =>
    .guarded c (c.reach (x.val + 1))
      (c.withRegisters (c.registers.putAll ((c.atIndex (x.val + 1)).map fun b => (b.toNat : Int))))
  | .unknown _ => .done c ()

end Chip8.Core
