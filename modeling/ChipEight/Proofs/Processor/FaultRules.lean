import ChipEight.Proofs.Processor.Fault
import ChipEight.Proofs.Processor.Sound

/-!
# The rules of the faults

Within the bounds of `Sound`, a step fails by a fault of the machine or not at all, and five rules
say when. They are stated on the word at the program counter and its pattern, not on instructions,
so that they can be read without the decoder: `Faults` is the whole list.

The rules exclude each other: a word is looked at only where it could be fetched, and the patterns
do not overlap. So each rule names the failure of the states that it applies to
(`stepFailure?_of_faults`).
-/

namespace ChipEight.Processor

variable {s : Processor} {failure : Failure}

/-- The words that access a block at the index register, and the length of the block. -/
inductive BlockWord : Nat → Nat → Prop
  /-- `Dxyn` reads a sprite of `n` rows. -/
  | draw (x y n : Nibble) : BlockWord (ChipEight.word 0xD x y n) n.val
  /-- `Fx33` stores three digits. -/
  | storeDecimal (x : Nibble) : BlockWord (ChipEight.word 0xF x 0x3 0x3) 3
  /-- `Fx55` stores the registers up to `x`. -/
  | storeUpTo (x : Nibble) : BlockWord (ChipEight.word 0xF x 0x5 0x5) (x.val + 1)
  /-- `Fx65` loads the registers up to `x`. -/
  | loadUpTo (x : Nibble) : BlockWord (ChipEight.word 0xF x 0x6 0x5) (x.val + 1)

/-- **The five rules.** The faults of a step from a state within its bounds. -/
inductive Faults (s : Processor) : Fault → Prop
  /-- The word at the program counter would leave memory. -/
  | fetch (hpc : 4094 < s.registers.pc) : Faults s (.memoryAccess s.registers.pc 2)
  /-- The word is no instruction's. -/
  | decode (hpc : s.registers.pc ≤ 4094) (hword : ∀ i spare, Instruction.toWord i spare ≠ s.word) :
    Faults s (.unknownOpcode s.word s.registers.pc)
  /-- The word is `00EE` and no call is in progress. -/
  | underflow (hpc : s.registers.pc ≤ 4094) (hword : s.word = 0x00EE)
    (hempty : s.registers.stack.frames = []) : Faults s .stackUnderflow
  /-- The word is `2nnn` and sixteen calls are in progress. -/
  | overflow (hpc : s.registers.pc ≤ 4094) (a : Address) (hword : s.word = addressWord 0x2 a)
    (hfull : s.registers.stack.depth = 16) : Faults s (.stackOverflow s.registers.pc 16)
  /-- The word accesses a block at the index register that would leave memory. -/
  | access (hpc : s.registers.pc ≤ 4094) (size : Nat) (hword : BlockWord s.word size)
    (hend : 4096 < s.registers.i + size) : Faults s (.memoryAccess s.registers.i size)

namespace Sound

theorem outside_iff (h : s.Sound) {address : Int} (haddress : 0 ≤ address) (size : Int) :
    s.memory.Outside address size ↔ 4096 < address + size := by
  rw [Memory.Outside, h.memory]
  omega

theorem accessFailure?_eq_some_iff (h : s.Sound) {size : Int} :
    s.accessFailure? size = some failure ↔
      4096 < s.registers.i + size ∧ failure = .fault (.memoryAccess s.registers.i size) := by
  have houtside := h.outside_iff h.index.1 size
  rw [accessFailure?]
  split
  · rename_i hend
    simp [houtside.1 hend, eq_comm]
  · rename_i hend
    simp [mt houtside.2 hend]

/-- An access that fails does so by the rule for accesses. -/
theorem faults_of_access (h : s.Sound) (hpc : s.registers.pc ≤ 4094) {size : Nat}
    (hword : BlockWord s.word size) (hfailure : s.accessFailure? size = some failure) :
    ∃ fault, failure = .fault fault ∧ s.Faults fault := by
  obtain ⟨hend, rfl⟩ := h.accessFailure?_eq_some_iff.1 hfailure
  exact ⟨_, rfl, .access hpc size hword hend⟩

/-- An instruction that fails does so by one of the rules. -/
theorem faults_of_execute (h : s.Sound) (hpc : s.registers.pc ≤ 4094) {i : Instruction}
    {spare : Nibble} (hword : i.toWord spare = s.word)
    (hfailure : s.executeFailure? i = some failure) :
    ∃ fault, failure = .fault fault ∧ s.Faults fault := by
  cases i
  case callReturn =>
    change (if s.registers.stack.frames = [] then _ else _) = _ at hfailure
    split at hfailure
    · rename_i hempty
      cases hfailure
      exact ⟨_, rfl, .underflow hpc hword.symm hempty⟩
    · cases hfailure
  case call a =>
    change (if (s.registers.stack.depth : Int) ≥ s.registers.stack.capacity then
      some (Failure.fault (.stackOverflow s.registers.pc s.registers.stack.capacity)) else none) = _
      at hfailure
    rw [h.capacity] at hfailure
    split at hfailure
    · rename_i hroom
      cases hfailure
      have hdepth := h.depth
      exact ⟨_, rfl, .overflow hpc a hword.symm (by omega)⟩
    · cases hfailure
  case draw x y rows =>
    have hblock : BlockWord s.word rows.val := hword ▸ .draw x y rows
    change (s.accessFailure? rows.val).or _ = _ at hfailure
    rcases Option.or_eq_some_iff.1 hfailure with haccess | ⟨-, hfailure⟩
    · exact h.faults_of_access hpc hblock haccess
    -- The display has pixels, so nothing else can fail.
    · split at hfailure
      · rename_i hflat
        have hwidth := h.width
        have hheight := h.height
        rcases hflat.1 with hzero | hzero <;> omega
      · cases hfailure
  case readDelay x =>
    have hdelay := h.delay
    change (if _ then _ else _) = _ at hfailure
    rw [if_pos (by omega)] at hfailure
    cases hfailure
  case storeDecimal x =>
    have hblock : BlockWord s.word 3 := hword ▸ .storeDecimal x
    exact h.faults_of_access hpc hblock hfailure
  case storeUpTo x =>
    have hblock : BlockWord s.word (x.val + 1) := hword ▸ .storeUpTo x
    exact h.faults_of_access hpc hblock hfailure
  case loadUpTo x =>
    have hblock : BlockWord s.word (x.val + 1) := hword ▸ .loadUpTo x
    exact h.faults_of_access hpc hblock hfailure
  all_goals cases hfailure

/-- The failure of a step whose word is an instruction's. -/
theorem stepFailure?_eq (h : s.Sound) (hpc : s.registers.pc ≤ 4094) (i : Instruction)
    (spare : Nibble) (hword : s.word = i.toWord spare) :
    s.stepFailure? = s.executeFailure? i := by
  have hinside : ¬ s.memory.Outside s.registers.pc 2 := by
    rw [h.outside_iff h.counter.1]
    omega
  rw [stepFailure?, if_neg hinside, hword, Instruction.ofWord?_toWord]

/-- Every fault of the rules is the failure of the step. -/
theorem stepFailure?_of_faults (h : s.Sound) {fault : Fault} (hfault : s.Faults fault) :
    s.stepFailure? = some (.fault fault) := by
  cases hfault with
  | fetch hpc =>
    have houtside : s.memory.Outside s.registers.pc 2 :=
      (h.outside_iff h.counter.1 2).2 (by omega)
    rw [stepFailure?, if_pos houtside]
  | decode hpc hword =>
    have hinside : ¬ s.memory.Outside s.registers.pc 2 := by
      rw [h.outside_iff h.counter.1]
      omega
    rw [stepFailure?, if_neg hinside, Instruction.ofWord?_eq_none_iff.2 hword]
  | underflow hpc hword hempty =>
    rw [h.stepFailure?_eq hpc .callReturn 0 hword]
    exact if_pos hempty
  | overflow hpc a hword hfull =>
    rw [h.stepFailure?_eq hpc (.call a) 0 hword]
    have hroom : (s.registers.stack.depth : Int) ≥ s.registers.stack.capacity := by
      rw [h.capacity, hfull]
      decide
    have hfailure : s.executeFailure? (.call a) =
        some (.fault (.stackOverflow s.registers.pc s.registers.stack.capacity)) := if_pos hroom
    rw [hfailure, h.capacity]
  | access hpc size hword hend =>
    have haccess := h.accessFailure?_eq_some_iff.2 ⟨hend, rfl⟩
    generalize hw : s.word = w at hword
    cases hword with
    | draw x y n =>
      rw [h.stepFailure?_eq hpc (.draw x y n) 0 hw]
      show (s.accessFailure? n.val).or _ = _
      rw [haccess, Option.some_or]
    | storeDecimal x =>
      rw [h.stepFailure?_eq hpc (.storeDecimal x) 0 hw]
      exact haccess
    | storeUpTo x =>
      rw [h.stepFailure?_eq hpc (.storeUpTo x) 0 hw]
      exact haccess
    | loadUpTo x =>
      rw [h.stepFailure?_eq hpc (.loadUpTo x) 0 hw]
      exact haccess

/-- **Within the bounds, the rules are exact**: a step fails by a fault of the rules, and by each
of them. -/
theorem stepFailure?_eq_some_iff (h : s.Sound) :
    s.stepFailure? = some failure ↔ ∃ fault, failure = .fault fault ∧ s.Faults fault := by
  constructor
  · intro hfailure
    rcases Int.lt_or_le 4094 s.registers.pc with hpc | hpc
    · have hfetch := h.stepFailure?_of_faults (.fetch hpc)
      rw [hfailure] at hfetch
      exact ⟨_, Option.some.inj hfetch, .fetch hpc⟩
    · rcases hdecode : Instruction.ofWord? s.word with - | i
      · have hfault := Faults.decode hpc (Instruction.ofWord?_eq_none_iff.1 hdecode)
        have hunknown := h.stepFailure?_of_faults hfault
        rw [hfailure] at hunknown
        exact ⟨_, Option.some.inj hunknown, hfault⟩
      · have hword := Instruction.toWord_of_ofWord? hdecode
        rw [h.stepFailure?_eq hpc i _ hword.symm] at hfailure
        exact h.faults_of_execute hpc hword hfailure
  · rintro ⟨fault, rfl, hfault⟩
    exact h.stepFailure?_of_faults hfault

end Sound

end ChipEight.Processor
