import ChipEight.Proofs.Processor.Step
import ChipEight.Proofs.Processor.Event
import ChipEight.Proofs.Registers.Access

/-!
# The arithmetic of the instructions

Ten instructions compute with the byte registers. Their words are listed in `Computes`, each with
the register that takes the result, the result as an integer, and the flag if it reports one. The
operands are numbers there, so that the list can be read without the arithmetic of bytes.

Operands, result and flag may share a register. `Stores` says what becomes of them: the flag is
written after the result, so it wins where both go to the flag register, and the operands are those
in front of the step whatever is written. `step_computes` is the theorem on all ten; it holds in
every state, within the bounds or not.
-/

namespace ChipEight.Processor

variable {s t : Processor} {x y z : Reg}

/-- **The ten computations**: the word, the register that takes the result, the result, and the flag
if one is reported, by the numbers that the registers hold. -/
inductive Computes (v : Reg → Nat) : Nat → Reg → Int → Option Bool → Prop
  /-- `7xkk` adds a byte and reports no carry. -/
  | addByte (x : Reg) (kk : UInt8) :
    Computes v (byteWord 0x7 x kk) x ((v x + kk.toNat) % 256) none
  /-- `8xy0` copies. -/
  | copy (x y : Reg) : Computes v (ChipEight.word 0x8 x y 0x0) x (v y) none
  /-- `8xy1` takes the bits of either. -/
  | or (x y : Reg) : Computes v (ChipEight.word 0x8 x y 0x1) x (v x ||| v y : Nat) none
  /-- `8xy2` takes the bits of both. -/
  | and (x y : Reg) : Computes v (ChipEight.word 0x8 x y 0x2) x (v x &&& v y : Nat) none
  /-- `8xy3` takes the bits of exactly one. -/
  | xor (x y : Reg) : Computes v (ChipEight.word 0x8 x y 0x3) x (v x ^^^ v y : Nat) none
  /-- `8xy4` adds and reports a carry. -/
  | add (x y : Reg) :
    Computes v (ChipEight.word 0x8 x y 0x4) x ((v x + v y) % 256) (some (255 < v x + v y))
  /-- `8xy5` subtracts and reports that nothing was borrowed. -/
  | subtract (x y : Reg) :
    Computes v (ChipEight.word 0x8 x y 0x5) x ((v x - v y) % 256) (some (v y ≤ v x))
  /-- `8xy6` halves and reports the lowest bit. -/
  | shiftRight (x y : Reg) :
    Computes v (ChipEight.word 0x8 x y 0x6) x (v x / 2) (some (v x % 2 = 1))
  /-- `8xy7` subtracts the other way round and reports that nothing was borrowed. -/
  | subtractFrom (x y : Reg) :
    Computes v (ChipEight.word 0x8 x y 0x7) x ((v y - v x) % 256) (some (v x ≤ v y))
  /-- `8xyE` doubles and reports the highest bit. -/
  | shiftLeft (x y : Reg) :
    Computes v (ChipEight.word 0x8 x y 0xE) x (2 * v x % 256) (some (128 ≤ v x))

/-- **What a computation leaves.** -/
structure Stores (s : Processor) (x : Reg) (result : Int) (flag? : Option Bool) (t : Processor) :
    Prop where
  /-- The flag register holds the flag that is reported. -/
  flag : ∀ flag, flag? = some flag → (t.reg Reg.flag).toNat = flag.toNat
  /-- The register holds the result, unless it is overwritten by the flag. -/
  result : flag? = none ∨ x ≠ Reg.flag → (t.reg x).toNat = result
  /-- Every other register keeps its byte. -/
  others : ∀ z ≠ x, flag? = none ∨ z ≠ Reg.flag → t.reg z = s.reg z
  /-- The program counter is at the following instruction. -/
  counter : t.registers.pc = s.registers.pc + 2
  /-- Nothing changes but the byte registers, the program counter and the current opcode. -/
  rest : t = { s with
    opcode := t.opcode
    registers := { s.registers with v := t.registers.v, pc := t.registers.pc } }

/-! ### Bytes as numbers -/

section

variable (a b : UInt8)

theorem toNat_add_eq : ((a + b).toNat : Int) = (a.toNat + b.toNat) % 256 := by
  rw [UInt8.toNat_add]
  omega

theorem toNat_sub_eq : ((a - b).toNat : Int) = (a.toNat - b.toNat) % 256 := by
  have hb := b.toNat_lt
  rw [UInt8.toNat_sub]
  omega

theorem toNat_half : ((a >>> 1).toNat : Int) = a.toNat / 2 := by
  rw [UInt8.toNat_shiftRight]
  show ((a.toNat >>> 1 : Nat) : Int) = a.toNat / 2
  omega

theorem toNat_double : ((a <<< 1).toNat : Int) = 2 * a.toNat % 256 := by
  rw [UInt8.toNat_shiftLeft]
  show ((a.toNat <<< 1 % 256 : Nat) : Int) = 2 * a.toNat % 256
  omega

theorem lowest_bit_eq : (a % 2 == 1) = decide (a.toNat % 2 = 1) := by
  rw [Bool.beq_eq_decide_eq, decide_eq_decide, ← UInt8.toNat_inj, UInt8.toNat_mod]
  rfl

theorem le_eq : decide (a ≤ b) = decide (a.toNat ≤ b.toNat) :=
  decide_eq_decide.2 UInt8.le_iff_toNat_le

end

/-! ### The two ways of storing -/

variable {i : Instruction} {result : Int}

/-- A step that stores a byte in a register. -/
theorem step_putReg (i : Instruction) (spare : Nibble) (value : UInt8)
    (hfetch : s.fetch = .ok (i.toWord spare))
    (hdone : { s with opcode := i.toWord spare }.execute i =
      .ok (.next, { s with opcode := i.toWord spare }.putReg x value))
    (hresult : value.toNat = result) :
    ∃ t, s.step = (.ok .next, t) ∧ s.Stores x result none t := by
  refine ⟨_, step_of_execute i spare hfetch hdone, ?_⟩
  have hreg (z : Reg) : (({ s with opcode := i.toWord spare }.putReg x value).settle .next).reg z =
      if x = z then value else s.reg z :=
    Registers.get_put ..
  constructor
  case flag =>
    rintro flag ⟨⟩
  case result =>
    rw [hreg, if_pos rfl]
    exact fun _ ↦ hresult
  case others =>
    intro z hz _
    rw [hreg, if_neg (Ne.symm hz)]
  all_goals rfl

/-- A step that stores a byte in a register and then reports a flag. -/
theorem step_putWithFlag (i : Instruction) (spare : Nibble) (value : UInt8) {flag flag' : Bool}
    (hfetch : s.fetch = .ok (i.toWord spare))
    (hdone : { s with opcode := i.toWord spare }.execute i =
      .ok (.next, { s with opcode := i.toWord spare }.putWithFlag x value flag))
    (hresult : value.toNat = result) (hflag : flag = flag') :
    ∃ t, s.step = (.ok .next, t) ∧ s.Stores x result (some flag') t := by
  refine ⟨_, step_of_execute i spare hfetch hdone, ?_⟩
  have hreg (z : Reg) :
      (({ s with opcode := i.toWord spare }.putWithFlag x value flag).settle .next).reg z =
        if Reg.flag = z then (if flag then 1 else 0) else if x = z then value else s.reg z := by
    refine (Registers.get_putFlag ..).trans ?_
    rw [Registers.get_put]
    rfl
  constructor
  case flag =>
    rintro _ ⟨⟩
    rw [hreg, if_pos rfl, ← hflag]
    cases flag <;> rfl
  case result =>
    rintro (⟨⟨⟩⟩ | hx)
    rw [hreg, if_neg (Ne.symm hx), if_pos rfl, hresult]
  case others =>
    rintro z hz (⟨⟨⟩⟩ | hflag)
    rw [hreg, if_neg (Ne.symm hflag), if_neg (Ne.symm hz)]
  all_goals rfl

/-! ### All computations -/

/-- **The arithmetic of a step.** In front of a word of the list, a step stores the result and the
flag that the list shows, computed from the registers in front of it, and nothing else. -/
theorem step_computes {w : Nat} {flag? : Option Bool} (hfetch : s.fetch = .ok w)
    (hcomputes : Computes (fun z ↦ (s.reg z).toNat) w x result flag?) :
    ∃ t, s.step = (.ok .next, t) ∧ s.Stores x result flag? t := by
  cases hcomputes with
  | addByte x kk =>
    exact step_putReg (.addByte x kk) 0 (s.reg x + kk) hfetch rfl (toNat_add_eq ..)
  | copy x y => exact step_putReg (.copy x y) 0 (s.reg y) hfetch rfl rfl
  | or x y =>
    exact step_putReg (.or x y) 0 (s.reg x ||| s.reg y) hfetch rfl
      (congrArg Nat.cast (UInt8.toNat_or ..))
  | and x y =>
    exact step_putReg (.and x y) 0 (s.reg x &&& s.reg y) hfetch rfl
      (congrArg Nat.cast (UInt8.toNat_and ..))
  | xor x y =>
    exact step_putReg (.xor x y) 0 (s.reg x ^^^ s.reg y) hfetch rfl
      (congrArg Nat.cast (UInt8.toNat_xor ..))
  | add x y =>
    exact step_putWithFlag (.add x y) 0 (s.reg x + s.reg y) hfetch rfl (toNat_add_eq ..) rfl
  | subtract x y =>
    exact step_putWithFlag (.subtract x y) 0 (s.reg x - s.reg y) hfetch rfl (toNat_sub_eq ..)
      (le_eq ..)
  | shiftRight x y =>
    exact step_putWithFlag (.shiftRight x) y (s.reg x >>> 1) hfetch rfl (toNat_half _)
      (lowest_bit_eq _)
  | subtractFrom x y =>
    exact step_putWithFlag (.subtractFrom x y) 0 (s.reg y - s.reg x) hfetch rfl (toNat_sub_eq ..)
      (le_eq ..)
  | shiftLeft x y =>
    exact step_putWithFlag (.shiftLeft x) y (s.reg x <<< 1) hfetch rfl (toNat_double _)
      (le_eq ..)

/-- A program that doubles the flag register by adding it to itself, behind the instruction that
stores what is doubled. -/
def doublingFlag : Processor :=
  (bare #[0x6F, 0xC8, 0x8F, 0xF4]).on .step

/-- The sum 400 is lost: it goes to the flag register, where the carry overwrites it. -/
theorem step_computes_doublingFlag :
    doublingFlag.fetch = .ok (ChipEight.word 0x8 0xF 0xF 0x4) ∧
      Computes (fun z ↦ (doublingFlag.reg z).toNat) (ChipEight.word 0x8 0xF 0xF 0x4) 0xF
        ((200 + 200) % 256) (some true) ∧
      ∃ t, doublingFlag.step = (.ok .next, t) ∧
        doublingFlag.Stores 0xF ((200 + 200) % 256) (some true) t ∧ (t.reg 0xF).toNat = 1 := by
  have hstart : doublingFlag.fetch = .ok (ChipEight.word 0x8 0xF 0xF 0x4) ∧
      (doublingFlag.reg 0xF).toNat = 200 := by
    decide +kernel
  obtain ⟨hfetch, hvalue⟩ := hstart
  have hcomputes : Computes (fun z ↦ (doublingFlag.reg z).toNat)
      (ChipEight.word 0x8 0xF 0xF 0x4) 0xF ((200 + 200) % 256) (some true) := by
    have hadd := Computes.add (v := fun z ↦ (doublingFlag.reg z).toNat) 0xF 0xF
    rwa [hvalue] at hadd
  obtain ⟨t, hstep, hstores⟩ := step_computes hfetch hcomputes
  exact ⟨hfetch, hcomputes, t, hstep, hstores, hstores.flag true rfl⟩

end ChipEight.Processor
