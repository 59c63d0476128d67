/-
What a listing shows.

A listing shows each whole word of a program once: where it lies, the word itself, and its assembler
text.  Once the program is in a console, these are the words that are fetched at these places.

* `Listing.getElem?_ofProgram` : the lines of a listing, one by one;
* `Listing.flatMap_ofProgram` : its words, written back, are the program without a last odd byte;
* `Console.byte_booted` : where the bytes of a cartridge lie in memory;
* `Listing.ofProgram_fetched` : what is listed is what is fetched.
-/
import Chip8.Instr.Listing
import Chip8.Proofs.Console.Reach

namespace Chip8

namespace Word

/-- The two bytes of a word, the high one first. -/
def toBytes (w : Word) : List UInt8 := [UInt8.ofNat (w.toNat / 256), UInt8.ofNat (w.toNat % 256)]

theorem toBytes_ofBytes (hi lo : UInt8) : (ofBytes hi lo).toBytes = [hi, lo] := by
  have hlt := lo.toNat_lt
  have hhigh : (hi.toNat * 256 + lo.toNat) / 256 = hi.toNat := by omega
  have hlow : (hi.toNat * 256 + lo.toNat) % 256 = lo.toNat := by omega
  rw [toBytes, toNat_ofBytes, hhigh, hlow]
  simp

end Word

namespace Listing

/-! ### Words and lines -/

/-- A program that does not start with two bytes has fewer than two. -/
theorem length_lt_two {program : List UInt8}
    (h : ∀ hi lo rest, program ≠ hi :: lo :: rest) : program.length < 2 := by
  rcases program with _ | ⟨hi, _ | ⟨lo, rest⟩⟩
  · simp
  · simp
  · exact absurd rfl (h hi lo rest)

theorem getElem?_words {program : List UInt8} {k : Nat} {hi lo : UInt8}
    (hhi : program[2 * k]? = some hi) (hlo : program[2 * k + 1]? = some lo) :
    (words program)[k]? = some (Word.ofBytes hi lo) := by
  fun_induction words program generalizing k with
  | case1 first second rest ih =>
    rcases k with _ | k
    · obtain rfl : first = hi := by simpa using hhi
      obtain rfl : second = lo := by simpa using hlo
      rfl
    · rw [List.getElem?_cons_succ]
      exact ih hhi hlo
  | case2 program h =>
    have hlt := length_lt_two h
    rw [List.getElem?_eq_none (by omega)] at hlo
    cases hlo

theorem flatMap_words (program : List UInt8) :
    (words program).flatMap Word.toBytes = program.take (2 * (program.length / 2)) := by
  fun_induction words program with
  | case1 hi lo rest ih =>
    have hhalf : 2 * ((hi :: lo :: rest).length / 2) = 2 * (rest.length / 2) + 2 := by
      simp only [List.length_cons]
      omega
    rw [List.flatMap_cons, Word.toBytes_ofBytes, ih, hhalf]
    rfl
  | case2 program h =>
    have hlt := length_lt_two h
    have hhalf : 2 * (program.length / 2) = 0 := by omega
    rw [hhalf]
    rfl

theorem length_lines (address : Int) (ws : List Word) : (lines address ws).length = ws.length := by
  induction ws generalizing address with
  | nil => rfl
  | cons w ws ih => simp [lines, ih]

theorem getElem?_lines (address : Int) (ws : List Word) (k : Nat) :
    (lines address ws)[k]? =
      ws[k]?.map fun w => ⟨address + 2 * k, w, (Instr.decode w).mnemonic⟩ := by
  induction ws generalizing address k with
  | nil => simp [lines]
  | cons w ws ih =>
    rcases k with _ | k
    · simp [lines]
    · have haddress : address + 2 + 2 * (k : Int) = address + 2 * ((k + 1 : Nat) : Int) := by omega
      rw [lines, List.getElem?_cons_succ, List.getElem?_cons_succ, ih, haddress]

theorem map_word_lines (address : Int) (ws : List Word) :
    (lines address ws).map Line.word = ws := by
  induction ws generalizing address with
  | nil => rfl
  | cons w ws ih => simp [lines, ih]

/-! ### Listings -/

variable (program : List UInt8) (origin : Int)

theorem length_ofProgram : (ofProgram program origin).length = program.length / 2 := by
  rw [ofProgram, length_lines, words_length]

theorem getElem?_ofProgram {k : Nat} {hi lo : UInt8}
    (hhi : program[2 * k]? = some hi) (hlo : program[2 * k + 1]? = some lo) :
    (ofProgram program origin)[k]? = some
      ⟨origin + 2 * k, .ofBytes hi lo, (Instr.decode (.ofBytes hi lo)).mnemonic⟩ := by
  rw [ofProgram, getElem?_lines, getElem?_words hhi hlo]
  rfl

theorem flatMap_ofProgram : ((ofProgram program origin).flatMap fun line => line.word.toBytes) =
    program.take (2 * (program.length / 2)) := by
  rw [← flatMap_words, ofProgram, ← List.flatMap_map, map_word_lines]

/-- A line is right for two bytes at an address. -/
structure Line.Shows (line : Line) (address : Int) (hi lo : UInt8) : Prop where
  address : line.address = address
  word : line.word.toNat = 256 * hi.toNat + lo.toNat
  text : line.text = (Instr.decode line.word).mnemonic

variable {program origin}

/-- Every line of a listing belongs to two bytes of the program. -/
theorem exists_bytes_of_mem {line : Line} (h : line ∈ ofProgram program origin) :
    ∃ (k : Nat) (hi lo : UInt8), program[2 * k]? = some hi ∧ program[2 * k + 1]? = some lo ∧
      line = ⟨origin + 2 * k, .ofBytes hi lo, (Instr.decode (.ofBytes hi lo)).mnemonic⟩ := by
  obtain ⟨k, hline⟩ := List.mem_iff_getElem?.mp h
  obtain ⟨hk, -⟩ := List.getElem?_eq_some_iff.mp hline
  rw [length_ofProgram] at hk
  have hhi : program[2 * k]? = some program[2 * k] := List.getElem?_eq_getElem (by omega)
  have hlo : program[2 * k + 1]? = some program[2 * k + 1] := List.getElem?_eq_getElem (by omega)
  rw [getElem?_ofProgram program origin hhi hlo, Option.some_inj] at hline
  exact ⟨k, _, _, hhi, hlo, hline.symm⟩

end Listing

/-! ### Loading and fetching -/

namespace Console

variable (c : Console) (cartridge : Cartridge) {k : Nat}

/-- The bytes of a cartridge lie in memory from `programStart` on. -/
theorem byte_booted {b : UInt8} (hb : cartridge.bytes[k]? = some b) :
    (c.booted cartridge).core.memory.ram.byte (programStart + k) = b := by
  have hfits : cartridge.bytes.length ≤ 3584 := cartridge.fits
  obtain ⟨hk, rfl⟩ := List.getElem?_eq_some_iff.mp hb
  have hroom : programStart + cartridge.bytes.length ≤ 4096 := by
    show 512 + cartridge.bytes.length ≤ 4096
    omega
  exact Ram.byte_splice_inside _ hroom hk

/-- Where two bytes of the cartridge lie, they are fetched as a word. -/
theorem fetch_booted {hi lo : UInt8} (hhi : cartridge.bytes[k]? = some hi)
    (hlo : cartridge.bytes[k + 1]? = some lo) :
    ((c.booted cartridge).core.jump (programStart + k : Nat)).fetch =
      .ok (.ofBytes hi lo, (c.booted cartridge).core.jump ((programStart + k : Nat) + 2)) := by
  have hfits : cartridge.bytes.length ≤ 3584 := cartridge.fits
  obtain ⟨hk, -⟩ := List.getElem?_eq_some_iff.mp hlo
  -- The last word that fits into a cartridge lies at the last two addresses.
  have hpc : programStart + k < 0xFFF := by
    show 512 + k < 0xFFF
    omega
  have hwf : ((c.booted cartridge).core.jump (programStart + k : Nat)).WellFormed :=
    (orderly_booted c cartridge).wellFormed.jump (by omega)
  have hword : ((c.booted cartridge).core.jump (programStart + k : Nat)).word =
      .ofBytes hi lo := by
    show Word.ofBytes ((c.booted cartridge).core.memory.ram.byte (programStart + k))
      ((c.booted cartridge).core.memory.ram.byte (programStart + (k + 1))) = _
    rw [byte_booted c cartridge hhi, byte_booted c cartridge hlo]
  rw [Core.fetch_of_lt hwf (Int.ofNat_lt.mpr hpc), hword]
  rfl

end Console

namespace Listing

/-- **What is listed is what is fetched.**  A listing has a line for each whole word of the program,
with its place, its value and its text, and the words written back are the program.  A program that
is short enough goes into any idle console, and then each listed word is fetched at its place. -/
theorem ofProgram_fetched (program : List UInt8) :
    (∀ origin, (ofProgram program origin).length = program.length / 2 ∧
      (∀ k hi lo, program[2 * k]? = some hi → program[2 * k + 1]? = some lo →
        ∃ line, (ofProgram program origin)[k]? = some line ∧ line.Shows (origin + 2 * k) hi lo) ∧
      ((ofProgram program origin).flatMap fun line => line.word.toBytes) =
        program.take (2 * (program.length / 2))) ∧
    (program.length ≤ 3584 → ∀ c : Console, c.running = false →
      (c.load program).result = .ok () ∧
      ∀ line ∈ ofProgram program programStart,
        ((c.load program).state.core.jump line.address).fetch =
          .ok (line.word, (c.load program).state.core.jump (line.address + 2)) ∧
        (Instr.decode line.word).mnemonic = line.text) := by
  constructor
  · intro origin
    refine ⟨length_ofProgram program origin, ?_, flatMap_ofProgram program origin⟩
    intro k hi lo hhi hlo
    refine ⟨_, getElem?_ofProgram program origin hhi hlo, rfl, ?_, rfl⟩
    rw [Word.toNat_ofBytes, Nat.mul_comm]
  · intro hroom c hidle
    rw [Console.load_of_idle hidle hroom]
    refine ⟨rfl, ?_⟩
    intro line hline
    obtain ⟨k, hi, lo, hhi, hlo, rfl⟩ := exists_bytes_of_mem hline
    have haddress : (programStart : Int) + 2 * k = (programStart + 2 * k : Nat) := by omega
    refine ⟨?_, rfl⟩
    rw [haddress]
    exact Console.fetch_booted _ ⟨program, "", hroom⟩ hhi hlo

/-- The longest program there can be, of jumps all over. -/
def fullProgram : List UInt8 := List.replicate 3584 0x12

/-- A console that a fault has stopped. -/
def faulted : Console := (Console.started [0x00, 0xEE]).tick.state

/-- The last word of the longest program is fetched at the last two addresses. -/
theorem ofProgram_fetched_last :
    fullProgram.length ≤ 3584 ∧ faulted.running = false ∧
      ∃ line ∈ ofProgram fullProgram programStart, line.address = 0xFFE ∧ line.word = 0x1212 ∧
        ((faulted.load fullProgram).state.core.jump 0xFFE).fetch =
          .ok (0x1212, (faulted.load fullProgram).state.core.jump 0x1000) := by
  have hroom : fullProgram.length ≤ 3584 := Nat.le_of_eq List.length_replicate
  have hidle : faulted.running = false := by decide +kernel
  obtain ⟨hlisted, hfetched⟩ := ofProgram_fetched fullProgram
  obtain ⟨line, hline, haddress, hvalue, -⟩ := (hlisted programStart).2.1 1791 0x12 0x12
    (List.getElem?_replicate_of_lt (by decide)) (List.getElem?_replicate_of_lt (by decide))
  have hword : line.word = 0x1212 := UInt16.toNat_inj.mp hvalue
  have hmem := List.mem_of_getElem? hline
  have hfetch := ((hfetched hroom faulted hidle).2 line hmem).1
  rw [haddress, hword] at hfetch
  exact ⟨hroom, hidle, line, hmem, haddress, hword, hfetch⟩

end Listing
end Chip8
