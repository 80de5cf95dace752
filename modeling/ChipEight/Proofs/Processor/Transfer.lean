import ChipEight.Proofs.Machine.Action
import ChipEight.Proofs.Registers.Access

/-!
# Registers and digits in memory

`Fx55` stores the registers up to `Vx` from the index register on, and `Fx65` loads them again. Each
is told here by the state after it (`execute_storeUpTo_of_inside`, `execute_loadUpTo_of_inside`),
and the two agree on how many registers there are and where they lie, so each of them undoes the
other: loading gives back the registers that were stored, whatever became of them in between
(`RoundTrip`), and storing what was loaded does not change memory.

`Fx33` stores the three decimal digits of a register, which add up to its number (`Decimal`).

In every state that is reached the index register is at least zero, so a bound on where the block
ends is all that these instructions ask for.
-/

namespace ChipEight

namespace Registers

variable {r : Registers} {x z : Reg} {bytes : List UInt8}

/-- A row of registers that was loaded is what stands in the registers. -/
theorem upTo_putFrom (hlength : bytes.length = x.val + 1) : (r.putFrom 0 bytes).upTo x = bytes := by
  have hupTo := Processor.length_upTo (r.putFrom 0 bytes) x
  refine List.ext_getElem (hupTo.trans hlength.symm) fun k hk hk' ↦ ?_
  have hlt : k < 16 := by omega
  rw [getElem_upTo _ x ⟨k, hlt⟩ hk rfl]
  exact get_putFrom_of_inside r _ 0 bytes hk' (Nat.zero_add k).symm

/-- The registers up to one of them that are stored in other registers: these hold them now, and
keep their bytes above. -/
theorem get_putFrom_upTo (r r' : Registers) :
    (r'.putFrom 0 (r.upTo x)).get z = if z ≤ x then r.get z else r'.get z := by
  have hlength := Processor.length_upTo r x
  split
  · rename_i hz
    have hk : z.val < (r.upTo x).length := by
      rw [hlength]
      exact Nat.lt_succ_of_le hz
    rw [get_putFrom_of_inside r' z 0 (r.upTo x) hk (Nat.zero_add _).symm]
    exact getElem_upTo r x z hk rfl
  · rename_i hz
    refine get_putFrom_of_outside r' z 0 (r.upTo x) (.inr ?_)
    rw [hlength, Nat.zero_add]
    exact Nat.lt_of_not_le hz

end Registers

namespace Processor

variable {s : Processor} {x : Reg}

/-! ### The instructions -/

/-- The state with all byte registers changed. -/
def withBytes (s : Processor) (v : Vector UInt8 16) : Processor :=
  s.withRegisters { s.registers with v }

/-- The state after a row of bytes was stored at the index register. -/
def withBlock (s : Processor) (block : List UInt8) : Processor :=
  { s with memory := s.memory.setBytes s.registers.i.toNat block }

/-- The state after a row of bytes was loaded from the index register. -/
def withLoaded (s : Processor) (x : Reg) : Processor :=
  s.withRegisters (s.registers.putFrom 0 (s.memory.block s.registers.i (x.val + 1 : Nat)))

theorem execute_storeUpTo_of_inside (hinside : ¬ s.memory.Outside s.registers.i (x.val + 1 : Nat)) :
    s.execute (.storeUpTo x) = .ok (.next, s.withBlock (s.registers.upTo x)) := by
  rw [← length_upTo s.registers x] at hinside
  exact (execute_storeUpTo s x).trans (if_neg hinside)

theorem execute_loadUpTo_of_inside (hinside : ¬ s.memory.Outside s.registers.i (x.val + 1 : Nat)) :
    s.execute (.loadUpTo x) = .ok (.next, s.withLoaded x) :=
  (execute_loadUpTo s x).trans (if_neg hinside)

theorem execute_storeDecimal_of_inside (hinside : ¬ s.memory.Outside s.registers.i (3 : Nat)) :
    s.execute (.storeDecimal x) = .ok (.next, s.withBlock (decimalDigits (s.reg x))) :=
  (execute_storeDecimal s x).trans (if_neg hinside)

/-- A byte outside a block that was stored is what it was. -/
theorem byteAt_withBlock (hlow : 0 ≤ s.registers.i) {block : List UInt8} {a : Nat}
    (h : a < s.registers.i ∨ s.registers.i + block.length ≤ a) :
    (s.withBlock block).memory.byteAt a = s.memory.byteAt a :=
  Memory.byteAt_setBytes_of_outside block (by omega)

/-- The bytes of a block that was stored, in turn. -/
theorem map_byteAt_withBlock (block : List UInt8)
    (hinside : ¬ s.memory.Outside s.registers.i block.length) :
    (List.range block.length).map
      (fun k ↦ (s.withBlock block).memory.byteAt (s.registers.i.toNat + k)) = block := by
  have hkept : ¬ (s.withBlock block).memory.Outside s.registers.i block.length :=
    mt Memory.outside_setBytes_iff.1 hinside
  rw [← Memory.block_eq_map hkept]
  exact Memory.block_setBytes block hinside

/-- Loading registers leaves the index register. -/
theorem index_withLoaded (s : Processor) (x : Reg) :
    (s.withLoaded x).registers.i = s.registers.i := by
  rw [withLoaded, putFrom_eq]
  rfl

/-- The registers after loading what some registers hold. -/
theorem reg_withLoaded {r : Registers} (z : Reg)
    (hblock : s.memory.block s.registers.i (x.val + 1 : Nat) = r.upTo x) :
    (s.withLoaded x).reg z = if z ≤ x then r.get z else s.reg z := by
  rw [withLoaded, hblock]
  exact Registers.get_putFrom_upTo r s.registers

/-! ### There and back -/

/-- **Registers stored and loaded again**: the state after storing, and the state after loading once
the registers were changed to others. -/
structure RoundTrip (s : Processor) (x : Reg) (v : Vector UInt8 16) (stored loaded : Processor) :
    Prop where
  /-- The registers that were stored are back. -/
  restored : ∀ z ≤ x, loaded.reg z = s.reg z
  /-- The others are what they were changed to. -/
  kept : ∀ z, x < z → loaded.reg z = v.get z
  /-- The index register does not move. -/
  index : stored.registers.i = s.registers.i ∧ loaded.registers.i = s.registers.i
  /-- Memory outside the block keeps its bytes throughout. -/
  outside : ∀ a : Nat, a < s.registers.i ∨ s.registers.i + x.val < a →
    stored.memory.byteAt a = s.memory.byteAt a ∧ loaded.memory.byteAt a = s.memory.byteAt a
  /-- Memory keeps its size throughout. -/
  size : stored.memory.size = s.memory.size ∧ loaded.memory.size = s.memory.size

/-- The registers that were stored come back, whatever the registers are changed to before. -/
theorem exists_roundTrip (hinside : ¬ s.memory.Outside s.registers.i (x.val + 1 : Nat)) :
    ∃ stored, s.execute (.storeUpTo x) = .ok (.next, stored) ∧ ∀ v, ∃ loaded,
      (stored.withBytes v).execute (.loadUpTo x) = .ok (.next, loaded) ∧
        s.RoundTrip x v stored loaded := by
  have hlength := length_upTo s.registers x
  have hsize : (s.withBlock (s.registers.upTo x)).memory.size = s.memory.size :=
    Memory.size_setBytes ..
  have hkept : ¬ (s.withBlock (s.registers.upTo x)).memory.Outside s.registers.i
      (x.val + 1 : Nat) :=
    mt Memory.outside_setBytes_iff.1 hinside
  have hblock : (s.withBlock (s.registers.upTo x)).memory.block s.registers.i (x.val + 1 : Nat) =
      s.registers.upTo x := by
    rw [← hlength] at hinside ⊢
    exact Memory.block_setBytes _ hinside
  refine ⟨_, execute_storeUpTo_of_inside hinside, fun v ↦ ⟨_, execute_loadUpTo_of_inside hkept, ?_⟩⟩
  have hreg (z : Reg) : (((s.withBlock (s.registers.upTo x)).withBytes v).withLoaded x).reg z =
      if z ≤ x then s.reg z else v.get z :=
    reg_withLoaded z hblock
  constructor
  case restored =>
    intro z hz
    rw [hreg, if_pos hz]
  case kept =>
    intro z hz
    rw [hreg, if_neg (not_le_of_gt hz)]
  case index => exact ⟨rfl, index_withLoaded ..⟩
  case outside =>
    intro a ha
    rw [Memory.Outside] at hinside
    have hbyte : (s.withBlock (s.registers.upTo x)).memory.byteAt a = s.memory.byteAt a :=
      byteAt_withBlock (by omega) (by omega)
    exact ⟨hbyte, hbyte⟩
  case size => exact ⟨hsize, hsize⟩

/-- Storing registers that were loaded does not change memory. -/
theorem exists_load_store (hinside : ¬ s.memory.Outside s.registers.i (x.val + 1 : Nat)) :
    ∃ loaded stored, s.execute (.loadUpTo x) = .ok (.next, loaded) ∧
      loaded.execute (.storeUpTo x) = .ok (.next, stored) ∧ stored.memory = s.memory := by
  have hindex := index_withLoaded s x
  have hkept : ¬ (s.withLoaded x).memory.Outside (s.withLoaded x).registers.i
      (x.val + 1 : Nat) := by
    rwa [hindex]
  refine ⟨_, _, execute_loadUpTo_of_inside hinside, execute_storeUpTo_of_inside hkept, ?_⟩
  show s.memory.setBytes (s.withLoaded x).registers.i.toNat ((s.withLoaded x).registers.upTo x) =
    s.memory
  rw [hindex]
  show s.memory.setBytes _ ((s.registers.putFrom 0 _).upTo x) = s.memory
  rw [Registers.upTo_putFrom (Memory.length_block hinside)]
  exact Memory.setBytes_block hinside

/-! ### Digits -/

/-- **Three decimal digits** of a register at the index register, the hundreds first. -/
structure Decimal (s : Processor) (x : Reg) (t : Processor) : Prop where
  /-- Each of them is a digit. -/
  digit : ∀ k < 3, (t.memory.byteAt (s.registers.i.toNat + k)).toNat < 10
  /-- Together they are the number that the register holds. -/
  sum : 100 * (t.memory.byteAt s.registers.i.toNat).toNat +
    10 * (t.memory.byteAt (s.registers.i.toNat + 1)).toNat +
    (t.memory.byteAt (s.registers.i.toNat + 2)).toNat = (s.reg x).toNat
  /-- Memory outside the three bytes is what it was. -/
  outside : ∀ a : Nat, a < s.registers.i ∨ s.registers.i + 3 ≤ a →
    t.memory.byteAt a = s.memory.byteAt a

/-- The digits of a byte, as numbers. -/
theorem map_toNat_decimalDigits (value : UInt8) :
    (decimalDigits value).map UInt8.toNat =
      [value.toNat / 100, value.toNat / 10 % 10, value.toNat % 10] := by
  simp only [decimalDigits, List.map_cons, List.map_nil, UInt8.toNat_div, UInt8.toNat_mod]
  rfl

/-- Storing the digits of a register leaves them in memory. -/
theorem exists_decimal (hinside : ¬ s.memory.Outside s.registers.i (3 : Nat)) :
    ∃ t, s.execute (.storeDecimal x) = .ok (.next, t) ∧ s.Decimal x t := by
  refine ⟨_, execute_storeDecimal_of_inside hinside, ?_⟩
  have hbyte := (s.reg x).toNat_lt
  have hstored := map_byteAt_withBlock (decimalDigits (s.reg x)) hinside
  have hdigits := (congrArg (List.map UInt8.toNat) hstored).trans (map_toNat_decimalDigits _)
  change [(Memory.byteAt _ (_ + 0)).toNat, (Memory.byteAt _ (_ + 1)).toNat,
    (Memory.byteAt _ (_ + 2)).toNat] = _ at hdigits
  simp only [List.cons.injEq, and_true] at hdigits
  obtain ⟨hhundreds, htens, hones⟩ := hdigits
  rw [Memory.Outside] at hinside
  constructor
  case digit =>
    intro k hk
    obtain rfl | rfl | rfl : k = 0 ∨ k = 1 ∨ k = 2 := by omega
    all_goals omega
  case sum =>
    rw [Nat.add_zero] at hhundreds
    omega
  case outside =>
    intro a ha
    exact byteAt_withBlock (by omega) ha

/-- **Registers come back from memory, and memory from registers.** Where the block of registers up
to `x` ends within memory, storing them and loading them again gives them back, whatever they are
changed to in between, and loading them and storing them again leaves memory as it was. Where three
bytes lie within memory, the digits of a register can be stored. -/
theorem registers_round_trip (h : s.Reached) (x : Reg) :
    (s.registers.i + (x.val + 1) ≤ 4096 →
      (∃ stored, s.execute (.storeUpTo x) = .ok (.next, stored) ∧ ∀ v, ∃ loaded,
        (stored.withBytes v).execute (.loadUpTo x) = .ok (.next, loaded) ∧
          s.RoundTrip x v stored loaded) ∧
      ∃ loaded stored, s.execute (.loadUpTo x) = .ok (.next, loaded) ∧
        loaded.execute (.storeUpTo x) = .ok (.next, stored) ∧ stored.memory = s.memory) ∧
    (s.registers.i + 3 ≤ 4096 →
      ∃ t, s.execute (.storeDecimal x) = .ok (.next, t) ∧ s.Decimal x t) := by
  have hinside (size : Nat) (hroom : s.registers.i + size ≤ 4096) :
      ¬ s.memory.Outside s.registers.i size :=
    mt (h.sound.outside_iff h.sound.index.1 size).1 (Int.not_lt.2 hroom)
  refine ⟨fun hroom ↦ ?_, fun hroom ↦ exists_decimal (hinside 3 hroom)⟩
  have hblock := hinside (x.val + 1) hroom
  exact ⟨exists_roundTrip hblock, exists_load_store hblock⟩

/-- A machine whose last register holds a number of three digits, and whose index register points at
the last sixteen bytes of memory. -/
def atLastBlock : Processor :=
  ((initial (Twister.ofSeed 1)).loaded [0x6F, 0xFE, 0xAF, 0xF0]).after [.step, .step]

/-- All registers fit in exactly. -/
theorem registers_round_trip_atLastBlock :
    atLastBlock.registers.i + ((0xF : Reg).val + 1) = 4096 ∧ atLastBlock.reg 0xF = 254 ∧
      (∃ stored, atLastBlock.execute (.storeUpTo 0xF) = .ok (.next, stored) ∧ ∀ v, ∃ loaded,
        (stored.withBytes v).execute (.loadUpTo 0xF) = .ok (.next, loaded) ∧
          atLastBlock.RoundTrip 0xF v stored loaded) ∧
      ∃ t, atLastBlock.execute (.storeDecimal 0xF) = .ok (.next, t) ∧ atLastBlock.Decimal 0xF t := by
  have hstart : atLastBlock.registers.i + ((0xF : Reg).val + 1) = 4096 ∧
      atLastBlock.reg 0xF = 254 := by
    decide +kernel
  obtain ⟨hend, hvalue⟩ := hstart
  have hreached : atLastBlock.Reached := ((reached_loaded 1 _).on .step).on .step
  obtain ⟨hblock, hdecimal⟩ := registers_round_trip hreached 0xF
  have hroom : atLastBlock.registers.i + 3 ≤ 4096 := by
    change atLastBlock.registers.i + 16 = 4096 at hend
    omega
  exact ⟨hend, hvalue, (hblock hend.le).1, hdecimal hroom⟩

end Processor

end ChipEight
