/-
Access to memory from outside.

Addresses and values are any integers.  A stretch of addresses passes its check if all of it is in
memory, and the fault of one that does not pass names the first address that is missing.  A write
that fails has written nothing, so what is read at an address is the last value that was written
there with success.

* `check_of_firstMissing`, `exists_firstMissing` : what the check finds, and when it finds
  something;
* `read_of_has`, `read_of_firstMissing` : reading in memory and outside of it, and so for words and
  for writing;
* `byte_writeAll` : what is in memory behind a row of writes;
* `access_checked` : what is answered behind any row of writes.
-/
import Chip8.Storage.Ram

namespace Chip8

/-- A value that is to be written at an address. -/
structure Store where
  address : Int
  value : Int
  deriving DecidableEq

namespace Store

/-- The low eight bits of the value. -/
def byte (s : Store) : UInt8 := UInt8.ofNat (s.value % 256).toNat

/-- The last value that a row of writes has for an address. -/
def lastTo? (row : List Store) (a : Int) : Option Store := row.reverse.find? (·.address = a)

theorem toNat_byte (s : Store) : (s.byte.toNat : Int) = s.value % 256 := by
  have hlow := Int.emod_nonneg s.value (b := 256) (by decide)
  have hhigh := Int.emod_lt_of_pos s.value (b := 256) (by decide)
  rw [byte, UInt8.toNat_ofNat']
  omega

theorem lastTo?_cons (s : Store) (rest : List Store) (a : Int) :
    lastTo? (s :: rest) a = (lastTo? rest a).or (if s.address = a then some s else none) := by
  rw [lastTo?, List.reverse_cons, List.find?_append, List.find?_singleton]
  simp [lastTo?]

end Store

namespace Ram

/-- The address is one of memory. -/
def Has (a : Int) : Prop := 0 ≤ a ∧ a < 4096

instance (a : Int) : Decidable (Has a) := inferInstanceAs (Decidable (_ ∧ _))

/-- Of a stretch of addresses, `a` is the first that is not in memory. -/
structure FirstMissing (address length a : Int) : Prop where
  mem : address ≤ a ∧ a < address + length
  missing : ¬ Has a
  first : ∀ b, address ≤ b → b < a → Has b

/-! ### Checks -/

section Check

variable {address length : Int}

theorem check_of_firstMissing {a : Int} (h : FirstMissing address length a) :
    check address length = .error (Cause.outOfBounds a).raise := by
  have hmem := h.mem
  have hmissing := h.missing
  have hstart := h.first address (Int.le_refl _)
  have hend := h.first 4096
  unfold Has at hmissing hstart hend
  rw [check]
  by_cases h0 : address < 0
  · rw [if_pos h0, show address = a by omega]
  · rw [if_neg h0, if_pos (by omega), show max address 4096 = a by omega]

theorem exists_firstMissing (hout : ∃ a, (address ≤ a ∧ a < address + length) ∧ ¬ Has a) :
    ∃ a, FirstMissing address length a := by
  obtain ⟨a, hmem, hmissing⟩ := hout
  unfold Has at hmissing
  by_cases h0 : address < 0
  · refine ⟨address, by omega, ?_, ?_⟩
    · unfold Has
      omega
    · intro b hlow hhigh
      omega
  · refine ⟨max address 4096, by omega, ?_, ?_⟩
    · unfold Has
      omega
    · intro b hlow hhigh
      unfold Has
      omega

/-- A check fails with the first address that is missing, and in no other way. -/
theorem check_eq_error_iff (hlength : 1 ≤ length) {e : Error} :
    check address length = .error e ↔
      ∃ a, FirstMissing address length a ∧ e = (Cause.outOfBounds a).raise := by
  constructor
  · intro he
    by_cases hout : ∃ a, (address ≤ a ∧ a < address + length) ∧ ¬ Has a
    · obtain ⟨a, ha⟩ := exists_firstMissing hout
      rw [check_of_firstMissing ha] at he
      exact ⟨a, ha, (Except.error.inj he).symm⟩
    · have hall : ∀ a, address ≤ a → a < address + length → Has a := by
        intro a hlow hhigh
        exact Classical.byContradiction fun hmissing => hout ⟨a, ⟨hlow, hhigh⟩, hmissing⟩
      have hfirst := hall address (by omega) (by omega)
      have hlast := hall (address + length - 1) (by omega) (by omega)
      unfold Has at hfirst hlast
      rw [check_eq_ok_iff.mpr (by omega)] at he
      cases he
  · rintro ⟨a, ha, rfl⟩
    exact check_of_firstMissing ha

end Check

/-! ### Single accesses -/

variable {a : Int}

theorem read_of_has (m : Ram) (h : Has a) : m.read a = .ok (m.byte a.toNat) := by
  have hcheck : check a 1 = .ok () := check_eq_ok_iff.mpr ⟨h.1, by have := h.2; omega⟩
  rw [read, hcheck]
  rfl

theorem readWord_of_has (m : Ram) (h : Has a) (h' : Has (a + 1)) :
    m.readWord a = .ok (Word.ofBytes (m.byte a.toNat) (m.byte (a.toNat + 1))) := by
  have hcheck : check a 2 = .ok () := check_eq_ok_iff.mpr ⟨h.1, by have := h'.2; omega⟩
  rw [readWord, hcheck]
  rfl

theorem read_of_firstMissing (m : Ram) {missing : Int} (h : FirstMissing a 1 missing) :
    m.read a = .error (Cause.outOfBounds missing).raise := by
  rw [read, check_of_firstMissing h]
  rfl

theorem readWord_of_firstMissing (m : Ram) {missing : Int} (h : FirstMissing a 2 missing) :
    m.readWord a = .error (Cause.outOfBounds missing).raise := by
  rw [readWord, check_of_firstMissing h]
  rfl

theorem write_of_has (m : Ram) {s : Store} (h : Has s.address) :
    m.write s.address s.value = .ok (m.put s.address.toNat s.byte) := by
  have hcheck : check s.address 1 = .ok () := check_eq_ok_iff.mpr ⟨h.1, by have := h.2; omega⟩
  rw [write, hcheck]
  rfl

theorem write_of_not_has (m : Ram) {s : Store} (h : ¬ Has s.address) :
    m.write s.address s.value = .error (Cause.outOfBounds s.address).raise := by
  have hfirst : FirstMissing s.address 1 s.address := by
    refine ⟨by omega, h, ?_⟩
    intro b hlow hhigh
    omega
  rw [write, check_of_firstMissing hfirst]
  rfl

/-! ### Rows of writes -/

/-- Memory behind a row of writes, those that fail included, and those of them that succeeded. -/
def writeAll (m : Ram) : List Store → Ram × List Store
  | [] => (m, [])
  | s :: rest =>
    match m.write s.address s.value with
    | .ok m' => ((m'.writeAll rest).1, s :: (m'.writeAll rest).2)
    | .error _ => m.writeAll rest

/-- A write succeeds exactly at the addresses of memory. -/
theorem writeAll_snd (m : Ram) (row : List Store) :
    (m.writeAll row).2 = row.filter fun s => Has s.address := by
  induction row generalizing m with
  | nil => rfl
  | cons s rest ih =>
    rw [writeAll]
    by_cases hs : Has s.address
    · rw [write_of_has m hs, List.filter_cons_of_pos (by simpa using hs)]
      exact congrArg _ (ih _)
    · rw [write_of_not_has m hs, List.filter_cons_of_neg (by simpa using hs)]
      exact ih m

/-- A byte is what was last written to it with success, or what it was before. -/
theorem byte_writeAll (m : Ram) (row : List Store) (h : Has a) :
    (m.writeAll row).1.byte a.toNat =
      ((Store.lastTo? (m.writeAll row).2 a).map Store.byte).getD (m.byte a.toNat) := by
  induction row generalizing m with
  | nil => rfl
  | cons s rest ih =>
    rw [writeAll]
    by_cases hs : Has s.address
    · rw [write_of_has m hs]
      have hbyte : (m.put s.address.toNat s.byte).byte a.toNat =
          if s.address = a then s.byte else m.byte a.toNat := by
        have hcell : (s.address.toNat = a.toNat ∧ s.address.toNat < 4096) ↔ s.address = a := by
          unfold Has at h hs
          omega
        rw [byte_put]
        simp only [hcell]
      rw [Store.lastTo?_cons, ih, hbyte]
      -- What is written later comes before what is written now.
      cases Store.lastTo? ((m.put s.address.toNat s.byte).writeAll rest).2 a with
      | some last => rfl
      | none => by_cases hsa : s.address = a <;> simp [hsa]
    · rw [write_of_not_has m hs]
      exact ih m

/-- What memory answers from outside, if it is read as `before` but for the writes that have been
made. -/
structure Remembers (before : Ram) (made : List Store) (m : Ram) : Prop where
  read_written : ∀ a s, Has a → Store.lastTo? made a = some s →
    ∃ b, m.read a = .ok b ∧ (b.toNat : Int) = s.value % 256
  read_unwritten : ∀ a, Has a → Store.lastTo? made a = none →
    ∃ b, m.read a = .ok b ∧ before.read a = .ok b
  readWord : ∀ a, 0 ≤ a ∧ a ≤ 4094 → ∃ high low word, m.read a = .ok high ∧
    m.read (a + 1) = .ok low ∧ m.readWord a = .ok word ∧
    word.toNat = 256 * high.toNat + low.toNat
  read_missing : ∀ a, ¬ Has a → ∃ missing, FirstMissing a 1 missing ∧
    m.read a = .error (Cause.outOfBounds missing).raise
  readWord_missing : ∀ a, ¬ (0 ≤ a ∧ a ≤ 4094) → ∃ missing, FirstMissing a 2 missing ∧
    m.readWord a = .error (Cause.outOfBounds missing).raise

theorem remembers_writeAll (before : Ram) (row : List Store) :
    Remembers before (before.writeAll row).2 (before.writeAll row).1 where
  read_written a s ha hs := by
    refine ⟨s.byte, ?_, s.toNat_byte⟩
    rw [read_of_has _ ha, byte_writeAll before row ha, hs]
    rfl
  read_unwritten a ha hnone := by
    refine ⟨before.byte a.toNat, ?_, read_of_has before ha⟩
    rw [read_of_has _ ha, byte_writeAll before row ha, hnone]
    rfl
  readWord a ha := by
    have hhigh : Has a := ⟨ha.1, by omega⟩
    have hlow : Has (a + 1) := ⟨by omega, by omega⟩
    have hnext : (a + 1).toNat = a.toNat + 1 := by omega
    refine ⟨_, _, _, read_of_has _ hhigh, read_of_has _ hlow, readWord_of_has _ hhigh hlow, ?_⟩
    rw [Word.toNat_ofBytes, hnext, Nat.mul_comm]
  read_missing a ha := by
    have hout : ∃ b, (a ≤ b ∧ b < a + 1) ∧ ¬ Has b := ⟨a, by omega, ha⟩
    obtain ⟨missing, hfirst⟩ := exists_firstMissing hout
    exact ⟨missing, hfirst, read_of_firstMissing _ hfirst⟩
  readWord_missing a ha := by
    have hout : ∃ b, (a ≤ b ∧ b < a + 2) ∧ ¬ Has b := by
      unfold Has
      by_cases h0 : 0 ≤ a ∧ a < 4096
      · exact ⟨a + 1, by omega, by omega⟩
      · exact ⟨a, by omega, h0⟩
    obtain ⟨missing, hfirst⟩ := exists_firstMissing hout
    exact ⟨missing, hfirst, readWord_of_firstMissing _ hfirst⟩

/-- **Access to memory is checked**, for any integers.  A stretch of addresses passes its check
exactly if all of it is in memory, and the fault of one that does not names the first address that
is missing.  Writes fail exactly outside of memory.  Behind any row of them, those that failed
included, a byte is read as the last value modulo 256 that was written there with success, or as it
was before; words are read high byte first; and whatever else is asked for fails with the first
address that is missing. -/
theorem access_checked (m : Ram) (row : List Store) :
    (∀ address length e, 1 ≤ length → (check address length = .error e ↔
      ∃ a, FirstMissing address length a ∧ e = (Cause.outOfBounds a).raise)) ∧
    (∀ address length, 1 ≤ length → ((∃ e, check address length = .error e) ↔
      ∃ a, (address ≤ a ∧ a < address + length) ∧ ¬ Has a)) ∧
    (m.writeAll row).2 = row.filter (fun s => Has s.address) ∧
    Remembers m (m.writeAll row).2 (m.writeAll row).1 := by
  refine ⟨?_, ?_, m.writeAll_snd row, remembers_writeAll m row⟩
  · intro address length e hlength
    exact check_eq_error_iff hlength
  · intro address length hlength
    constructor
    · rintro ⟨e, he⟩
      obtain ⟨a, ha, -⟩ := (check_eq_error_iff hlength).mp he
      exact ⟨a, ha.mem, ha.missing⟩
    · intro hout
      obtain ⟨a, ha⟩ := exists_firstMissing hout
      exact ⟨_, check_of_firstMissing ha⟩

/-- Two values for the same address with one in between that is for no address, and a value that
takes up more than a byte. -/
def someWrites : List Store := [⟨5, -1⟩, ⟨4096, 7⟩, ⟨5, 300⟩, ⟨-1, 9⟩, ⟨6, -2⟩]

/-- Negative numbers count as what they are modulo 256, stretches fail where they leave memory, and
a stretch that begins below memory fails at its beginning. -/
theorem access_checked_astray :
    check 0xFFE 4 = .error (Cause.outOfBounds 0x1000).raise ∧
      check (-2) 5 = .error (Cause.outOfBounds (-2)).raise ∧
      (zero.writeAll someWrites).2.length = 3 ∧
      (∃ b : UInt8, (zero.writeAll someWrites).1.read 5 = .ok b ∧ (b.toNat : Int) = 44) ∧
      (∃ b : UInt8, (zero.writeAll someWrites).1.read 6 = .ok b ∧ (b.toNat : Int) = 254) ∧
      (zero.writeAll someWrites).1.readWord 0xFFF = .error (Cause.outOfBounds 0x1000).raise := by
  obtain ⟨hcheck, -, hsucceed, hmemory⟩ := access_checked zero someWrites
  have hmade : (zero.writeAll someWrites).2 = [⟨5, -1⟩, ⟨5, 300⟩, ⟨6, -2⟩] :=
    hsucceed.trans (by decide)
  rw [hmade] at hmemory ⊢
  refine ⟨?_, ?_, rfl, ?_, ?_, ?_⟩
  · refine (hcheck 0xFFE 4 _ (by decide)).mpr ⟨0x1000, ⟨by decide, by decide, ?_⟩, rfl⟩
    intro b hlow hhigh
    unfold Has
    omega
  · refine (hcheck (-2) 5 _ (by decide)).mpr ⟨-2, ⟨by decide, by decide, ?_⟩, rfl⟩
    intro b hlow hhigh
    omega
  · exact hmemory.read_written 5 ⟨5, 300⟩ (by decide) (by decide)
  · exact hmemory.read_written 6 ⟨6, -2⟩ (by decide) (by decide)
  · obtain ⟨missing, hfirst, herror⟩ := hmemory.readWord_missing 0xFFF (by decide)
    have hmem := hfirst.mem
    have hmissing := hfirst.missing
    unfold Has at hmissing
    rw [herror, show missing = 0x1000 by omega]

end Ram
end Chip8
