/-
Arithmetic on registers.

Sums, differences and shifted numbers may not fit into a register, and then the flag register tells
what is missing.  The operands are read before anything is written and the flag is written last, so
it is right also if both operands are the same register, or if one of them is the flag register,
where it takes the place of the result.

* `sum_putFlagged`, `difference_putFlagged`, `half_putFlagged`, `double_putFlagged` : a result and
  its flag make up the number that was computed;
* `execute_of_computes` : arithmetic changes V0 to VF and nothing else;
* `execute_computed` : what every arithmetic word computes.
-/
import Chip8.Proofs.Core.Footprint
import Chip8.Proofs.Instr.Patterns

namespace Chip8

/-! ### Bits of bytes -/

namespace IsByte

variable {y z : Int}

theorem or_eq (hy : IsByte y) (hz : IsByte z) : Bits.or y z = (y.toNat ||| z.toNat : Nat) := by
  obtain ⟨m, -, rfl⟩ := hy.exists_nat
  obtain ⟨n, -, rfl⟩ := hz.exists_nat
  rfl

theorem and_eq (hy : IsByte y) (hz : IsByte z) : Bits.and y z = (y.toNat &&& z.toNat : Nat) := by
  obtain ⟨m, -, rfl⟩ := hy.exists_nat
  obtain ⟨n, -, rfl⟩ := hz.exists_nat
  rfl

theorem xor_eq (hy : IsByte y) (hz : IsByte z) : Bits.xor y z = (y.toNat ^^^ z.toNat : Nat) := by
  obtain ⟨m, -, rfl⟩ := hy.exists_nat
  obtain ⟨n, -, rfl⟩ := hz.exists_nat
  rfl

/-- The lowest bit. -/
theorem bit_zero (hz : IsByte z) : Bits.bit z 0 = decide (z % 2 = 1) := by
  obtain ⟨m, -, rfl⟩ := hz.exists_nat
  rw [Bits.bit, Nat.testBit_zero, decide_eq_decide, Int.ofNat_eq_natCast]
  omega

/-- The highest bit. -/
theorem bit_seven (hz : IsByte z) : Bits.bit z 7 = decide (128 ≤ z) := by
  obtain ⟨m, hm, rfl⟩ := hz.exists_nat
  rw [Bits.bit, Nat.testBit_eq_decide_div_mod_eq, decide_eq_decide, Int.ofNat_eq_natCast]
  omega

end IsByte

namespace Core

variable {c : Core} {w : Word} {a b : Int}

/-! ### Results and flags -/

/-- The flag register tells whether something is so: it is one if it is and zero if not. -/
def Flags (d : Core) (p : Prop) : Prop := (d.v .flag = 1 ↔ p) ∧ (d.v .flag = 0 ↔ ¬p)

theorem v_put_self (c : Core) (x : Reg) (z : Int) : (c.put x z).v x = z := by
  show (c.registers.put x z).get x = z
  rw [Registers.get_put, if_pos rfl]

/-- The flag is written last. -/
theorem v_putFlagged_flag (c : Core) (x : Reg) (z : Int) (raised : Bool) :
    (c.putFlagged x z raised).v .flag = if raised then 1 else 0 :=
  v_put_self (c.put x z) .flag _

theorem v_putFlagged_self (c : Core) {x : Reg} (hx : x ≠ .flag) (z : Int) (raised : Bool) :
    (c.putFlagged x z raised).v x = z := by
  show ((c.registers.put x z).put .flag _).get x = z
  rw [Registers.get_put, if_neg (Ne.symm hx), Registers.get_put, if_pos rfl]

theorem flags_putFlagged (c : Core) (x : Reg) (z : Int) (p : Prop) [Decidable p] :
    (c.putFlagged x z (decide p)).Flags p := by
  rw [Flags, v_putFlagged_flag]
  by_cases hp : p
  · simp [hp]
  · simp [hp]

theorem Flags.cases {d : Core} {p : Prop} (h : d.Flags p) :
    (p ∧ d.v .flag = 1) ∨ (¬p ∧ d.v .flag = 0) := by
  by_cases hp : p
  · exact .inl ⟨hp, h.1.mpr hp⟩
  · exact .inr ⟨hp, h.2.mpr hp⟩

/-- The flag of a sum is its carry. -/
theorem sum_putFlagged (c : Core) (x : Reg) (ha : IsByte a) (hb : IsByte b) :
    let d := c.putFlagged x ((a + b) % 256) (255 < a + b)
    d.Flags (255 < a + b) ∧ (x ≠ .flag → 256 * d.v .flag + d.v x = a + b) := by
  intro d
  have hflags : d.Flags (255 < a + b) := flags_putFlagged c x _ _
  refine ⟨hflags, ?_⟩
  intro hx
  have hresult : d.v x = (a + b) % 256 := v_putFlagged_self c hx _ _
  rcases hflags.cases with ⟨hcarry, hflag⟩ | ⟨hcarry, hflag⟩
  · omega
  · omega

/-- The flag of a difference is zero if it borrows. -/
theorem difference_putFlagged (c : Core) (x : Reg) (ha : IsByte a) (hb : IsByte b) :
    let d := c.putFlagged x ((a - b) % 256) (b ≤ a)
    d.Flags (b ≤ a) ∧ (x ≠ .flag → d.v x = a - b + 256 * (1 - d.v .flag)) := by
  intro d
  have hflags : d.Flags (b ≤ a) := flags_putFlagged c x _ _
  refine ⟨hflags, ?_⟩
  intro hx
  have hresult : d.v x = (a - b) % 256 := v_putFlagged_self c hx _ _
  rcases hflags.cases with ⟨hle, hflag⟩ | ⟨hle, hflag⟩
  · omega
  · omega

/-- The flag of a half is the remainder. -/
theorem half_putFlagged (c : Core) (x : Reg) (ha : IsByte a) :
    let d := c.putFlagged x (a / 2) (Bits.bit a 0)
    d.v .flag = a % 2 ∧ (x ≠ .flag → 2 * d.v x + d.v .flag = a) := by
  rw [ha.bit_zero]
  intro d
  have hflag : d.v .flag = a % 2 := by
    have hflags : d.Flags (a % 2 = 1) := flags_putFlagged c x _ _
    rcases hflags.cases with ⟨hodd, hflag⟩ | ⟨heven, hflag⟩
    · omega
    · omega
  refine ⟨hflag, ?_⟩
  intro hx
  have hresult : d.v x = a / 2 := v_putFlagged_self c hx _ _
  omega

/-- The flag of a double is what is above a byte. -/
theorem double_putFlagged (c : Core) (x : Reg) (ha : IsByte a) :
    let d := c.putFlagged x (a * 2 % 256) (Bits.bit a 7)
    d.v .flag = a / 128 ∧ (x ≠ .flag → 256 * d.v .flag + d.v x = 2 * a) := by
  rw [ha.bit_seven]
  intro d
  have hflag : d.v .flag = a / 128 := by
    have hflags : d.Flags (128 ≤ a) := flags_putFlagged c x _ _
    rcases hflags.cases with ⟨hhigh, hflag⟩ | ⟨hlow, hflag⟩
    · omega
    · omega
  refine ⟨hflag, ?_⟩
  intro hx
  have hresult : d.v x = a * 2 % 256 := v_putFlagged_self c hx _ _
  omega

end Core

/-! ### Arithmetic words -/

/-- Whether an instruction computes a register from registers. -/
def Instr.computes : Instr → Bool
  | .addByte _ _ | .or _ _ | .and _ _ | .xor _ _ => true
  | .add _ _ | .sub _ _ | .subFrom _ _ | .shiftRight _ | .shiftLeft _ => true
  | _ => false

namespace Word

/-- The word is one of those that tell in the flag register what did not fit. -/
def Carries (w : Word) : Prop := w.family = 0x8 ∧ w.n.val ∈ [0x4, 0x5, 0x6, 0x7, 0xE]

/-- The word is one of those that compute a register from registers. -/
def Computes (w : Word) : Prop :=
  w.family = 0x7 ∨ (w.family = 0x8 ∧ w.n.val ∈ [0x1, 0x2, 0x3]) ∨ w.Carries

instance (w : Word) : Decidable w.Carries := inferInstanceAs (Decidable (_ ∧ _))

instance (w : Word) : Decidable w.Computes := inferInstanceAs (Decidable (_ ∨ _))

theorem Computes.decode {w : Word} (hw : w.Computes) : (Instr.decode w).computes = true := by
  rcases hw with hw | ⟨hw, hn⟩ | ⟨hw, hn⟩
  · simp [Instr.decode, hw, Instr.computes]
  · rw [Instr.decode_of_family_eight hw, Instr.decodeArithmetic]
    split <;> simp_all [Instr.computes]
  · rw [Instr.decode_of_family_eight hw, Instr.decodeArithmetic]
    split <;> simp_all [Instr.computes]

/-- Only words that carry set another register than their first one. -/
theorem Computes.sets {w : Word} (hw : w.Computes) {r : Reg}
    (hr : (Instr.decode w).sets r = true) : r = w.x ∨ (r = .flag ∧ w.Carries) := by
  rcases hw with hw | ⟨hw, hn⟩ | hw
  · exact .inl (by simpa [Instr.decode, hw, Instr.sets] using hr)
  · rw [Instr.decode_of_family_eight hw, Instr.decodeArithmetic] at hr
    split at hr <;> simp_all [Instr.sets]
  · rw [Instr.decode_of_family_eight hw.1, Instr.decodeArithmetic] at hr
    have hn := hw.2
    split at hr <;> simp_all [Instr.sets]

end Word

namespace Core

variable {c : Core} {w : Word}

/-- Arithmetic runs through, and nothing but V0 to VF changes. -/
theorem execute_of_computes (c : Core) {i : Instr} (hi : i.computes = true) :
    c.execute i = .done { c with
      registers := { c.registers with v := (c.execute i).state.registers.v } } () := by
  cases i with
  | addByte x kk => rfl
  | or x y | and x y | xor x y => rfl
  | add x y | sub x y | subFrom x y => rfl
  | shiftRight x | shiftLeft x => rfl
  | _ => cases hi

/-- What the word `w` has computed from the machine `c`, in the machine `d` behind it. -/
structure Computed (w : Word) (c d : Core) : Prop where
  addByte : w.family = 0x7 → d.v w.x = (c.v w.x + w.kk.toNat) % 256
  or : w.HasDigit 0x8 0x1 → d.v w.x = ((c.v w.x).toNat ||| (c.v w.y).toNat : Nat)
  and : w.HasDigit 0x8 0x2 → d.v w.x = ((c.v w.x).toNat &&& (c.v w.y).toNat : Nat)
  xor : w.HasDigit 0x8 0x3 → d.v w.x = ((c.v w.x).toNat ^^^ (c.v w.y).toNat : Nat)
  add : w.HasDigit 0x8 0x4 → d.Flags (255 < c.v w.x + c.v w.y) ∧
    (w.x ≠ .flag → 256 * d.v .flag + d.v w.x = c.v w.x + c.v w.y)
  sub : w.HasDigit 0x8 0x5 → d.Flags (c.v w.y ≤ c.v w.x) ∧
    (w.x ≠ .flag → d.v w.x = c.v w.x - c.v w.y + 256 * (1 - d.v .flag))
  shiftRight : w.HasDigit 0x8 0x6 → d.v .flag = c.v w.x % 2 ∧
    (w.x ≠ .flag → 2 * d.v w.x + d.v .flag = c.v w.x)
  subFrom : w.HasDigit 0x8 0x7 → d.Flags (c.v w.x ≤ c.v w.y) ∧
    (w.x ≠ .flag → d.v w.x = c.v w.y - c.v w.x + 256 * (1 - d.v .flag))
  shiftLeft : w.HasDigit 0x8 0xE → d.v .flag = c.v w.x / 128 ∧
    (w.x ≠ .flag → 256 * d.v .flag + d.v w.x = 2 * c.v w.x)
  /-- The flag register is left alone by words that do not carry. -/
  others : ∀ r, r ≠ w.x → (r = .flag → ¬w.Carries) → d.v r = c.v r
  rest : d = { c with registers := { c.registers with v := d.registers.v } }

theorem computed (h : c.WellFormed) (hw : w.Computes) :
    Computed w c (c.execute (Instr.decode w)).state where
  addByte hw := by
    simp only [Instr.decode, hw]
    exact v_put_self c w.x _
  or hw := by
    simp only [Instr.decode_of_family_eight hw.1, Instr.decodeArithmetic, hw.2]
    exact (v_put_self c w.x _).trans ((h.v w.x).or_eq (h.v w.y))
  and hw := by
    simp only [Instr.decode_of_family_eight hw.1, Instr.decodeArithmetic, hw.2]
    exact (v_put_self c w.x _).trans ((h.v w.x).and_eq (h.v w.y))
  xor hw := by
    simp only [Instr.decode_of_family_eight hw.1, Instr.decodeArithmetic, hw.2]
    exact (v_put_self c w.x _).trans ((h.v w.x).xor_eq (h.v w.y))
  add hw := by
    simp only [Instr.decode_of_family_eight hw.1, Instr.decodeArithmetic, hw.2]
    exact sum_putFlagged c w.x (h.v w.x) (h.v w.y)
  sub hw := by
    simp only [Instr.decode_of_family_eight hw.1, Instr.decodeArithmetic, hw.2]
    exact difference_putFlagged c w.x (h.v w.x) (h.v w.y)
  shiftRight hw := by
    simp only [Instr.decode_of_family_eight hw.1, Instr.decodeArithmetic, hw.2]
    exact half_putFlagged c w.x (h.v w.x)
  subFrom hw := by
    simp only [Instr.decode_of_family_eight hw.1, Instr.decodeArithmetic, hw.2]
    exact difference_putFlagged c w.x (h.v w.y) (h.v w.x)
  shiftLeft hw := by
    simp only [Instr.decode_of_family_eight hw.1, Instr.decodeArithmetic, hw.2]
    exact double_putFlagged c w.x (h.v w.x)
  others r hx hflag := by
    refine (execute_confined h (Instr.decode w)).v r (Bool.eq_false_iff.mpr ?_)
    intro hsets
    rcases hw.sets hsets with hr | ⟨hr, hcarries⟩
    · exact hx hr
    · exact hflag hr hcarries
  rest := congrArg Outcome.state (execute_of_computes c hw.decode)

/-- Subtracting what was added brings the register back, and borrows if the sum was carried. -/
theorem sub_of_add {d e : Core} {v : Word} (h : c.WellFormed) (hd : d.WellFormed)
    (hadd : w.HasDigit 0x8 0x4) (hsub : v.HasDigit 0x8 0x5) (hx : v.x = w.x) (hy : v.y = w.y)
    (hxy : w.x ≠ w.y) (hxf : w.x ≠ .flag) (hyf : w.y ≠ .flag) (hcd : Computed w c d)
    (hde : Computed v d e) : e.v w.x = c.v w.x ∧ e.v .flag = 1 - d.v .flag := by
  have hkept : d.v w.y = c.v w.y := hcd.others w.y (Ne.symm hxy) fun hf => absurd hf hyf
  obtain ⟨hcarry, hsum⟩ := hcd.add hadd
  obtain ⟨hborrow, hdifference⟩ := hde.sub hsub
  rw [hx, hy, hkept] at hborrow hdifference
  have hsum := hsum hxf
  have hdifference := hdifference hxf
  have hbyte : IsByte (d.v w.x) := hd.v w.x
  have hx : IsByte (c.v w.x) := h.v w.x
  have hy : IsByte (c.v w.y) := h.v w.y
  -- A sum that was carried is below what was added, and one that was not is not: in each case one
  -- of the two flags of the difference contradicts that.
  rcases hcarry.cases with ⟨-, hone⟩ | ⟨-, hzero⟩
  · rcases hborrow.cases with ⟨hle, -⟩ | ⟨-, hflag⟩
    · omega
    · omega
  · rcases hborrow.cases with ⟨-, hflag⟩ | ⟨hlt, -⟩
    · omega
    · omega

/-- **What arithmetic computes.**  A result and its flag make up the exact sum, difference, half or
double of the operands before, whichever registers these are, except that in the flag register the
flag takes the place of the result.  No other register changes.  So a sum is undone by a difference,
and the one borrows exactly if the other carried. -/
theorem execute_computed (h : c.WellFormed) :
    (∀ w : Word, w.Computes → (c.execute (Instr.decode w)).result = .ok () ∧
      Computed w c (c.execute (Instr.decode w)).state) ∧
    ∀ w v : Word, w.HasDigit 0x8 0x4 → v.HasDigit 0x8 0x5 → v.x = w.x → v.y = w.y →
      w.x ≠ w.y → w.x ≠ .flag → w.y ≠ .flag →
      let d := (c.execute (Instr.decode w)).state
      let e := (d.execute (Instr.decode v)).state
      e.v w.x = c.v w.x ∧ e.v .flag = 1 - d.v .flag := by
  constructor
  · intro w hw
    refine ⟨?_, computed h hw⟩
    rw [execute_of_computes c hw.decode]
    rfl
  · intro w v hadd hsub hx hy hxy hxf hyf d e
    have hw : w.Computes := .inr (.inr ⟨hadd.1, by simp [hadd.2]⟩)
    have hv : v.Computes := .inr (.inr ⟨hsub.1, by simp [hsub.2]⟩)
    have hd : d.WellFormed := execute_wellFormed h _
    exact sub_of_add h hd hadd hsub hx hy hxy hxf hyf (computed h hw) (computed hd hv)

/-- A machine with numbers in V0, V3 and VF of which no two add up to a byte. -/
def brimful : Core :=
  (((Core.initial false (.cycle #[])).put .zero 100).put ⟨3, by decide⟩ 200).put .flag 201

/-- In the flag register there is only room for the carry.  In V0 a sum that carried is undone, and
the difference borrows. -/
theorem execute_computed_brimful :
    brimful.WellFormed ∧ (0x8F04 : Word).Computes ∧
      (brimful.execute (Instr.decode 0x8F04)).state.v .flag = 1 ∧
      let d := (brimful.execute (Instr.decode 0x8034)).state
      d.v .flag = 1 ∧ d.v .zero = 44 ∧ (d.execute (Instr.decode 0x8035)).state.v .zero = 100 ∧
        (d.execute (Instr.decode 0x8035)).state.v .flag = 0 := by
  have h : brimful.WellFormed := by decide +kernel
  have hw : (0x8F04 : Word).Computes := by decide
  obtain ⟨hall, hundone⟩ := execute_computed h
  have hown := ((hall 0x8F04 hw).2.add (by decide)).1.1.mpr (by decide)
  obtain ⟨hflags, hsum⟩ := (hall 0x8034 (by decide)).2.add (by decide)
  have hcarry := hflags.1.mpr (by decide)
  have hsum := hsum (by decide)
  rw [hcarry] at hsum
  obtain ⟨hback, hborrow⟩ := hundone 0x8034 0x8035 (by decide) (by decide) (by decide) (by decide)
    (by decide) (by decide) (by decide)
  rw [hcarry] at hborrow
  refine ⟨h, hw, hown, hcarry, ?_, hback, hborrow⟩
  exact Int.add_left_cancel hsum

end Core
end Chip8
