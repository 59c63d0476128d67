/-
Reading assembler text.

The text of an instruction is a verb and its operands, with blanks between them and commas that are
only for the eye.  Verb and operands can be read off the text again, and no two instructions share
them, so a text stands for one instruction only.  Words whose texts are the same do the same.

* `Operand.read?_text` : an operand is read from its text;
* `Instr.mnemonic_eq_render`, `Instr.tokens_render` : the parts of a text, and how they are told
  apart;
* `Instr.assemble?_mnemonic` : an instruction is read from its text;
* `Instr.execute_eq_of_mnemonic_eq` : the text of a word says all about what the word does.
-/
import Chip8.Core.Execution
import Chip8.Core.Trace
import Chip8.Theory.Numerals

namespace Chip8

namespace Hex

/-- The value of a capital digit. -/
def digit? (c : Char) : Option Nat := (List.range 16).find? fun d => Letters.upper.digit d == c

/-- The value of a numeral of capital digits. -/
def value? (digits : List Char) : Option Nat :=
  digits.foldlM (fun n c => (digit? c).map (16 * n + ·)) 0

theorem digit?_digit {d : Nat} (h : d < 16) : digit? (Letters.upper.digit d) = some d := by
  have key : ∀ d : Fin 16, digit? (Letters.upper.digit d) = some d.val := by decide
  exact key ⟨d, h⟩

theorem value?_fixed {width n : Nat} (h : n < 16 ^ width) :
    value? (fixed .upper width n) = some n := by
  induction width generalizing n with
  | zero =>
    obtain rfl : n = 0 := by simpa using h
    rfl
  | succ width ih =>
    rw [Nat.pow_succ] at h
    have hlow := digit?_digit (Nat.mod_lt n (by decide : 0 < 16))
    have hhigh := ih (Nat.div_lt_of_lt_mul (by omega : n < 16 * 16 ^ width))
    rw [value?] at hhigh
    rw [value?, fixed, List.foldlM_append, hhigh]
    simp [hlow, Nat.div_add_mod]

/-- A numeral that fits its width is read back. -/
theorem value?_upper {width n : Nat} (hw : 0 < width) (h : n < 16 ^ width) :
    value? (upper width n).toList = some n := by
  rw [upper, String.toList_ofList, padded_eq_fixed .upper hw h, value?_fixed h]

theorem length_upper {width n : Nat} (hw : 0 < width) (h : n < 16 ^ width) :
    (upper width n).toList.length = width := by
  rw [upper, String.toList_ofList, padded_eq_fixed .upper hw h, length_fixed]

end Hex

/-! ### Operands -/

inductive Operand where
  | reg (x : Reg)
  | byte (kk : UInt8)
  | addr (a : Addr)
  | word (w : Word)
  | height (n : Fin 16)
  /-- The index register. -/
  | index
  /-- The memory from the index register on. -/
  | memory
  | delay
  | sound
  | key
  | font
  | decimal
  deriving DecidableEq

namespace Operand

def text : Operand → String
  | .reg x => x.text
  | .byte kk => Instr.byteText kk
  | .addr a => a.text
  | .word w => "0x" ++ Hex.upper 4 w.toNat
  | .height n => n.val.repr
  | .index => "I"
  | .memory => "[I]"
  | .delay => "DT"
  | .sound => "ST"
  | .key => "K"
  | .font => "F"
  | .decimal => "B"

/-- The operand of a hexadecimal numeral: how many digits it has tells what it is. -/
def ofNumeral? (digits : List Char) : Option Operand :=
  (Hex.value? digits).bind fun n =>
    match digits.length with
    | 2 => some (.byte (UInt8.ofNat n))
    | 3 => some (.addr ⟨n % 4096, Nat.mod_lt _ (by decide)⟩)
    | 4 => some (.word (UInt16.ofNat n))
    | _ => none

/-- The operand that a text stands for. -/
def read? : List Char → Option Operand
  | 'V' :: digits => (Hex.value? digits).map fun n => .reg ⟨n % 16, Nat.mod_lt _ (by decide)⟩
  | '0' :: 'x' :: digits => ofNumeral? digits
  | ['I'] => some .index
  | ['[', 'I', ']'] => some .memory
  | ['D', 'T'] => some .delay
  | ['S', 'T'] => some .sound
  | ['K'] => some .key
  | ['F'] => some .font
  | ['B'] => some .decimal
  | digits => ((List.finRange 16).find? fun n => n.val.repr.toList == digits).map .height

theorem ofNumeral?_byte (kk : UInt8) :
    ofNumeral? (Hex.upper 2 kk.toNat).toList = some (.byte kk) := by
  have hlt : kk.toNat < 16 ^ 2 := kk.toNat_lt
  rw [ofNumeral?, Hex.value?_upper (by decide) hlt, Hex.length_upper (by decide) hlt]
  simp

theorem ofNumeral?_addr (a : Addr) : ofNumeral? (Hex.upper 3 a.val).toList = some (.addr a) := by
  have hlt : a.val < 16 ^ 3 := a.isLt
  rw [ofNumeral?, Hex.value?_upper (by decide) hlt, Hex.length_upper (by decide) hlt]
  simp [Nat.mod_eq_of_lt a.isLt]

theorem ofNumeral?_word (w : Word) :
    ofNumeral? (Hex.upper 4 w.toNat).toList = some (.word w) := by
  have hlt : w.toNat < 16 ^ 4 := w.toNat_lt
  rw [ofNumeral?, Hex.value?_upper (by decide) hlt, Hex.length_upper (by decide) hlt]
  simp

theorem read?_reg (x : Reg) : read? x.text.toList = some (.reg x) := by
  have hlt : x.val < 16 ^ 1 := x.isLt
  have hvalue := Hex.value?_upper (by decide) hlt
  rw [Reg.text, String.toList_append]
  show (Hex.value? (Hex.upper 1 x.val).toList).map _ = _
  rw [hvalue]
  simp [Nat.mod_eq_of_lt x.isLt]

theorem read?_height (n : Fin 16) : read? n.val.repr.toList = some (.height n) := by
  revert n
  decide +kernel

/-- An operand is read from its text. -/
theorem read?_text (o : Operand) : read? o.text.toList = some o := by
  cases o with
  | reg x => exact read?_reg x
  | byte kk =>
    rw [text, Instr.byteText, String.toList_append]
    exact ofNumeral?_byte kk
  | addr a =>
    rw [text, Addr.text, String.toList_append]
    exact ofNumeral?_addr a
  | word w =>
    rw [text, String.toList_append]
    exact ofNumeral?_word w
  | height n => exact read?_height n
  | _ => decide

/-! ### Characters between operands -/

/-- There is neither a blank nor a comma. -/
def plain (cs : List Char) : Bool := cs.all fun c => c != ' ' && c != ','

theorem plain_fixed (width n : Nat) : plain (Hex.fixed .upper width n) = true := by
  have hdigit : ∀ d : Fin 16, (Hex.Letters.upper.digit d != ' ' &&
      Hex.Letters.upper.digit d != ',') = true := by decide
  rw [plain, List.all_eq_true]
  intro c hc
  obtain ⟨d, hd, rfl⟩ := Hex.exists_digit_of_mem_fixed hc
  exact hdigit ⟨d, hd⟩

/-- A numeral behind a plain text. -/
theorem plain_append_upper {front : String} (hfront : plain front.toList = true) (width n : Nat) :
    plain (front ++ Hex.upper width n).toList = true := by
  rw [Hex.upper, String.toList_append, String.toList_ofList, plain, List.all_append,
    Bool.and_eq_true]
  exact ⟨hfront, plain_fixed _ n⟩

theorem plain_text (o : Operand) : plain o.text.toList = true := by
  cases o with
  | reg x => exact plain_append_upper (by decide) 1 x.val
  | byte kk => exact plain_append_upper (by decide) 2 kk.toNat
  | addr a => exact plain_append_upper (by decide) 3 a.val
  | word w => exact plain_append_upper (by decide) 4 w.toNat
  | height n =>
    revert n
    decide +kernel
  | _ => decide

end Operand

namespace Instr

/-! ### Verbs -/

/-- The verb and the operands of an instruction. -/
def parts : Instr → String × List Operand
  | .clear => ("CLS", [])
  | .ret => ("RET", [])
  | .sys a => ("SYS", [.addr a])
  | .jump a => ("JP", [.addr a])
  | .call a => ("CALL", [.addr a])
  | .skipEqByte x kk => ("SE", [.reg x, .byte kk])
  | .skipNeByte x kk => ("SNE", [.reg x, .byte kk])
  | .skipEq x y => ("SE", [.reg x, .reg y])
  | .loadByte x kk => ("LD", [.reg x, .byte kk])
  | .addByte x kk => ("ADD", [.reg x, .byte kk])
  | .copy x y => ("LD", [.reg x, .reg y])
  | .or x y => ("OR", [.reg x, .reg y])
  | .and x y => ("AND", [.reg x, .reg y])
  | .xor x y => ("XOR", [.reg x, .reg y])
  | .add x y => ("ADD", [.reg x, .reg y])
  | .sub x y => ("SUB", [.reg x, .reg y])
  | .shiftRight x => ("SHR", [.reg x])
  | .subFrom x y => ("SUBN", [.reg x, .reg y])
  | .shiftLeft x => ("SHL", [.reg x])
  | .skipNe x y => ("SNE", [.reg x, .reg y])
  | .loadIndex a => ("LD", [.index, .addr a])
  | .jumpOffset a => ("JP", [.reg .zero, .addr a])
  | .random x kk => ("RND", [.reg x, .byte kk])
  | .draw x y n => ("DRW", [.reg x, .reg y, .height n])
  | .skipKey x => ("SKP", [.reg x])
  | .skipNoKey x => ("SKNP", [.reg x])
  | .readDelay x => ("LD", [.reg x, .delay])
  | .awaitKey x => ("LD", [.reg x, .key])
  | .setDelay x => ("LD", [.delay, .reg x])
  | .setSound x => ("LD", [.sound, .reg x])
  | .addIndex x => ("ADD", [.index, .reg x])
  | .fontIndex x => ("LD", [.font, .reg x])
  | .storeDecimal x => ("LD", [.decimal, .reg x])
  | .storeRegs x => ("LD", [.memory, .reg x])
  | .loadRegs x => ("LD", [.reg x, .memory])
  | .unknown w => ("???", [.word w])

/-- The instruction with a verb and operands. -/
def ofParts? (verb : String) : List Operand → Option Instr
  | [] =>
    match verb with
    | "CLS" => some .clear
    | "RET" => some .ret
    | _ => none
  | [.addr a] =>
    match verb with
    | "SYS" => some (.sys a)
    | "JP" => some (.jump a)
    | "CALL" => some (.call a)
    | _ => none
  | [.reg x] =>
    match verb with
    | "SHR" => some (.shiftRight x)
    | "SHL" => some (.shiftLeft x)
    | "SKP" => some (.skipKey x)
    | "SKNP" => some (.skipNoKey x)
    | _ => none
  | [.reg x, .byte kk] =>
    match verb with
    | "SE" => some (.skipEqByte x kk)
    | "SNE" => some (.skipNeByte x kk)
    | "LD" => some (.loadByte x kk)
    | "ADD" => some (.addByte x kk)
    | "RND" => some (.random x kk)
    | _ => none
  | [.reg x, .reg y] =>
    match verb with
    | "SE" => some (.skipEq x y)
    | "SNE" => some (.skipNe x y)
    | "LD" => some (.copy x y)
    | "OR" => some (.or x y)
    | "AND" => some (.and x y)
    | "XOR" => some (.xor x y)
    | "ADD" => some (.add x y)
    | "SUB" => some (.sub x y)
    | "SUBN" => some (.subFrom x y)
    | _ => none
  | [.reg x, .reg y, .height n] => if verb = "DRW" then some (.draw x y n) else none
  | [.index, .addr a] => if verb = "LD" then some (.loadIndex a) else none
  | [.index, .reg x] => if verb = "ADD" then some (.addIndex x) else none
  | [.reg x, .addr a] => if verb = "JP" ∧ x = .zero then some (.jumpOffset a) else none
  | [.reg x, .delay] => if verb = "LD" then some (.readDelay x) else none
  | [.reg x, .key] => if verb = "LD" then some (.awaitKey x) else none
  | [.reg x, .memory] => if verb = "LD" then some (.loadRegs x) else none
  | [.delay, .reg x] => if verb = "LD" then some (.setDelay x) else none
  | [.sound, .reg x] => if verb = "LD" then some (.setSound x) else none
  | [.font, .reg x] => if verb = "LD" then some (.fontIndex x) else none
  | [.decimal, .reg x] => if verb = "LD" then some (.storeDecimal x) else none
  | [.memory, .reg x] => if verb = "LD" then some (.storeRegs x) else none
  | [.word w] => if verb = "???" then some (.unknown w) else none
  | _ => none

theorem ofParts?_parts (i : Instr) : ofParts? i.parts.1 i.parts.2 = some i := by
  cases i <;> simp [parts, ofParts?]

/-- A verb and its operands in one text. -/
def render (verb : String) : List Operand → String
  | [] => verb
  | first :: rest => verb ++ " " ++ ", ".intercalate ((first :: rest).map Operand.text)

theorem mnemonic_eq_render (i : Instr) : i.mnemonic = render i.parts.1 i.parts.2 := by
  have hzero : Reg.zero.text = "V0" := by decide
  apply String.toList_inj.mp
  cases i <;> simp [mnemonic, parts, render, withReg, Operand.text, hzero]

/-! ### Reading a text -/

/-- What stands between blanks in a text, its commas left out. -/
def tokens (text : String) : List (List Char) := (text.toList.filter (· != ',')).splitOn ' '

theorem filter_intercalate {α : Type} (p : α → Bool) (separator : List α) (ls : List (List α)) :
    (separator.intercalate ls).filter p =
      (separator.filter p).intercalate (ls.map (List.filter p)) := by
  induction ls with
  | nil => rfl
  | cons first rest ih =>
    rcases rest with _ | ⟨second, rest⟩
    · simp
    · rw [List.map_cons] at ih
      simp only [List.intercalate_cons_cons, List.filter_append, List.map_cons, ih]

theorem filter_of_plain {cs : List Char} (h : Operand.plain cs = true) :
    cs.filter (· != ',') = cs := by
  rw [List.filter_eq_self]
  intro c hc
  have hc' := List.all_eq_true.mp h c hc
  exact (Bool.and_eq_true _ _ ▸ hc').2

theorem blank_notMem_of_plain {cs : List Char} (h : Operand.plain cs = true) : ' ' ∉ cs := by
  intro hc
  exact absurd (List.all_eq_true.mp h ' ' hc) (by decide)

/-- Verb and operands are told apart. -/
theorem tokens_render {verb : String} (hverb : Operand.plain verb.toList = true)
    (operands : List Operand) :
    tokens (render verb operands) = verb.toList :: operands.map fun o => o.text.toList := by
  have hplain : ∀ cs ∈ verb.toList :: operands.map fun o => o.text.toList, ' ' ∉ cs := by
    intro cs hcs
    rcases List.mem_cons.mp hcs with rfl | hcs
    · exact blank_notMem_of_plain hverb
    · obtain ⟨o, -, rfl⟩ := List.mem_map.mp hcs
      exact blank_notMem_of_plain o.plain_text
  have hfilter : (render verb operands).toList.filter (· != ',') =
      [' '].intercalate (verb.toList :: operands.map fun o => o.text.toList) := by
    rcases operands with _ | ⟨first, rest⟩
    · simp [render, filter_of_plain hverb]
    · have hwords : ∀ l : List Operand,
          ((l.map Operand.text).map String.toList).map (List.filter (· != ',')) =
            l.map fun o => o.text.toList := by
        intro l
        rw [List.map_map, List.map_map]
        exact List.map_congr_left fun o _ => filter_of_plain o.plain_text
      rw [render, String.toList_append, String.toList_append, String.toList_intercalate,
        List.filter_append, List.filter_append, filter_intercalate, filter_of_plain hverb, hwords,
        List.map_cons, List.intercalate_cons_cons]
      rfl
  rw [tokens, hfilter, List.splitOn_intercalate ' ' hplain (by simp)]

/-- The instruction that a text stands for. -/
def assemble? (text : String) : Option Instr :=
  match tokens text with
  | [] => none
  | verb :: operands =>
    (operands.mapM Operand.read?).bind (ofParts? (String.ofList verb))

theorem mapM_read? (operands : List Operand) :
    (operands.map fun o => o.text.toList).mapM Operand.read? = some operands := by
  induction operands with
  | nil => rfl
  | cons o operands ih => simp [List.mapM_cons, Operand.read?_text, ih]

theorem plain_verb (i : Instr) : Operand.plain i.parts.1.toList = true := by
  cases i <;> simp [parts, Operand.plain]

/-- An instruction is read from its text. -/
theorem assemble?_mnemonic (i : Instr) : assemble? i.mnemonic = some i := by
  rw [mnemonic_eq_render, assemble?, tokens_render i.plain_verb]
  dsimp only
  rw [mapM_read?, Option.bind_some, String.ofList_toList, ofParts?_parts]

example : assemble? "LD F, V1" = some (.fontIndex ⟨1, by decide⟩) ∧
    assemble? "LD VF, V1" = some (.copy .flag ⟨1, by decide⟩) := by
  decide +kernel

/-- No two instructions share a text. -/
theorem mnemonic_injective : Function.Injective mnemonic := by
  intro i j h
  have hread := congrArg assemble? h
  rw [assemble?_mnemonic, assemble?_mnemonic, Option.some_inj] at hread
  exact hread

/-- **The text of a word says all about what it does.**  Two numbers of any size and sign whose
words have the same text stand for the same operation, and on every machine they have the same
outcome: the same machine behind them or the same fault, and the same line in the log. -/
theorem execute_eq_of_mnemonic_eq {a b : Int}
    (h : (decode (.ofInt a)).mnemonic = (decode (.ofInt b)).mnemonic) :
    (decode (.ofInt a)).opcode = (decode (.ofInt b)).opcode ∧
    ∀ c : Core, c.execute (decode (.ofInt a)) = c.execute (decode (.ofInt b)) ∧
      (decode (.ofInt a)).trace c (c.execute (decode (.ofInt a))).state =
        (decode (.ofInt b)).trace c (c.execute (decode (.ofInt b))).state := by
  have hsame := mnemonic_injective h
  rw [hsame]
  exact ⟨rfl, fun c => ⟨rfl, rfl⟩⟩

/-- A shift has no use for the third digit of its word, and its text leaves the digit out. -/
theorem execute_eq_of_mnemonic_eq_shiftRight :
    Word.ofInt 0x8106 ≠ Word.ofInt (-32266) ∧
    (decode (.ofInt 0x8106)).mnemonic = (decode (.ofInt (-32266))).mnemonic ∧
    (decode (.ofInt 0x8106)).opcode = (decode (.ofInt (-32266))).opcode ∧
    ∀ c : Core, c.execute (decode (.ofInt 0x8106)) = c.execute (decode (.ofInt (-32266))) ∧
      (decode (.ofInt 0x8106)).trace c (c.execute (decode (.ofInt 0x8106))).state =
        (decode (.ofInt (-32266))).trace c (c.execute (decode (.ofInt (-32266)))).state := by
  have htext : (decode (.ofInt 0x8106)).mnemonic = (decode (.ofInt (-32266))).mnemonic := by
    decide +kernel
  exact ⟨by decide, htext, execute_eq_of_mnemonic_eq htext⟩

end Instr
end Chip8
