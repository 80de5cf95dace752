import ChipEight.Proofs.Processor.Burst
import ChipEight.Proofs.Processor.Fault
import ChipEight.Proofs.Processor.Footprint

/-!
# Another source of random bytes

One instruction looks at the source of random bytes, and nothing else does. So a processor and the
same processor with another source behave alike for as long as no step executes that instruction:
each event, and each run of instructions within a budget of cycles, leads to states that again
differ in nothing but the source.

A burst is such a run. Whether it draws a random byte shows in the states in front of the
instructions that it attempts.
-/

namespace ChipEight.Processor

variable {s : Processor} {i : Instruction} {random : Twister} {cycles : Nat}

/-- The state with another source of random bytes. -/
def withRandom (s : Processor) (random : Twister) : Processor :=
  { s with random }

/-- The word at the program counter is `Cxkk`. -/
def DrawsRandom (s : Processor) : Prop :=
  ∃ x mask spare, s.fetch = .ok ((Instruction.random x mask).toWord spare)

/-! ### One step -/

theorem fetch_withRandom (s : Processor) (random : Twister) :
    (s.withRandom random).fetch = s.fetch :=
  fetch_congr rfl rfl

theorem awaitKey_withRandom (s : Processor) (random : Twister) (x : Reg) :
    (s.withRandom random).awaitKey x =
      ((s.awaitKey x).1, (s.awaitKey x).2.withRandom random) := by
  have hwatched : (s.withRandom random).watched = s.watched := rfl
  rw [awaitKey_eq, awaitKey_eq, hwatched]
  cases s.watched.firstFresh? <;> rfl

theorem storeAtIndex_withRandom (s : Processor) (random : Twister) (block : List UInt8) :
    (s.withRandom random).storeAtIndex block =
      (s.storeAtIndex block).map fun done ↦ (done.1, done.2.withRandom random) := by
  rw [storeAtIndex, storeAtIndex, apply_ite (Except.map _)]
  rfl

/-- An instruction that draws no random byte does the same with another source. -/
theorem execute_withRandom (hi : ∀ x mask, i ≠ .random x mask) (random : Twister) :
    (s.withRandom random).execute i =
      (s.execute i).map fun done ↦ (done.1, done.2.withRandom random) := by
  cases i
  case random x mask => exact absurd rfl (hi x mask)
  case callReturn =>
    have hframes : (s.withRandom random).registers.stack.frames = s.registers.stack.frames := rfl
    rw [execute_callReturn, execute_callReturn, hframes]
    cases s.registers.stack.frames <;> rfl
  case call a =>
    rw [execute_call, execute_call, apply_ite (Except.map _)]
    rfl
  case draw x y rows =>
    rw [execute_draw, execute_draw, drawSprite, drawSprite, apply_ite (Except.map _)]
    refine if_congr Iff.rfl rfl ?_
    show Except.map _ (s.display.draw (s.reg x).toNat (s.reg y).toNat
      (s.memory.block s.registers.i rows.val)) = _
    cases s.display.draw (s.reg x).toNat (s.reg y).toNat
      (s.memory.block s.registers.i rows.val) <;> rfl
  case readDelay x =>
    rw [execute_readDelay, execute_readDelay, apply_ite (Except.map _)]
    rfl
  case awaitKey x =>
    rw [execute_awaitKey, execute_awaitKey]
    exact congrArg Except.ok (awaitKey_withRandom s random x)
  case storeDecimal x =>
    rw [execute_storeDecimal, execute_storeDecimal]
    exact storeAtIndex_withRandom s random _
  case storeUpTo x =>
    rw [execute_storeUpTo, execute_storeUpTo]
    exact storeAtIndex_withRandom s random _
  case loadUpTo x =>
    rw [execute_loadUpTo, execute_loadUpTo, apply_ite (Except.map _)]
    rfl
  -- The others always succeed, and their equations do not mention the source.
  all_goals rfl

theorem settle_withRandom (s : Processor) (random : Twister) (o : Outcome) :
    (s.withRandom random).settle o = (s.settle o).withRandom random := by
  cases o <;> rfl

/-- **A step that draws no random byte** does the same with another source. -/
theorem step_withRandom (h : ¬ s.DrawsRandom) (random : Twister) :
    (s.withRandom random).step = (s.step.1, s.step.2.withRandom random) := by
  have hfetch := s.fetch_withRandom random
  rcases hstep : s.step with ⟨failure | o, t⟩
  · -- What makes a step fail does not depend on the source, and a failed step does nothing.
    have hfailure : (s.withRandom random).step.1 = .error failure := by
      have hs := step_eq_error_iff.1 (congrArg Prod.fst hstep)
      exact step_eq_error_iff.2 hs
    have hopcode : (s.withRandom random).fetchedOpcode = s.fetchedOpcode := by
      rw [fetchedOpcode, fetchedOpcode, hfetch]
      rfl
    have hleft := step_eq_error (Prod.ext hfailure rfl)
    rw [hopcode] at hleft
    refine Prod.ext hfailure (hleft.trans ?_)
    rw [step_eq_error hstep]
    rfl
  · obtain ⟨i, u, hdecode, hword, hdone, rfl⟩ := step_eq_ok hstep
    have htoWord := Instruction.toWord_of_ofWord? hdecode
    have hi (x : Reg) (mask : UInt8) : i ≠ .random x mask := by
      rintro rfl
      exact h ⟨x, mask, _, htoWord ▸ hword⟩
    have hother : (withRandom { s with opcode := s.word } random).execute i =
        .ok (o, u.withRandom random) := by
      rw [execute_withRandom hi random, hdone]
      rfl
    rw [← htoWord] at hother hword
    rw [step_of_execute i _ (hfetch.trans hword) hother, settle_withRandom]

/-! ### Runs -/

/-- An event does the same with another source, unless it is a step that draws a random byte. -/
theorem on_withRandom (random : Twister) (event : Event) (h : event = .step → ¬ s.DrawsRandom) :
    (s.withRandom random).on event = (s.on event).withRandom random := by
  cases event with
  | step =>
    show (s.withRandom random).step.2 = s.step.2.withRandom random
    rw [step_withRandom (h rfl)]
  | tick => rfl
  | press key => rfl
  | release key => rfl

/-- **A burst that draws no random byte** attempts the same states with another source, and ends the
same. -/
theorem burst_withRandom (random : Twister) (h : ∀ t ∈ s.attempts cycles, ¬ t.DrawsRandom) :
    (s.withRandom random).attempts cycles =
        (s.attempts cycles).map (fun t ↦ t.withRandom random) ∧
      (s.withRandom random).burst cycles =
        ((s.burst cycles).1, (s.burst cycles).2.withRandom random) := by
  induction cycles generalizing s with
  | zero => exact ⟨rfl, rfl⟩
  | succ cycles ih =>
    have hstep := step_withRandom (h s List.mem_cons_self) random
    obtain ⟨result, t, hresult, hends⟩ | ⟨o, t, hresult, ho⟩ := s.ends_or_goes
    · rw [hresult] at hstep
      rw [attempts_succ_of_ends hresult hends, attempts_succ_of_ends hstep hends,
        burst_succ_of_ends hresult hends, burst_succ_of_ends hstep hends]
      exact ⟨rfl, rfl⟩
    · rw [hresult] at hstep
      rw [attempts_succ_of_goes hresult ho] at h ⊢
      obtain ⟨hattempts, hburst⟩ := ih fun u hu ↦ h u (List.mem_cons_of_mem s hu)
      rw [attempts_succ_of_goes hstep ho, burst_succ_of_goes hresult ho,
        burst_succ_of_goes hstep ho]
      exact ⟨congrArg _ hattempts, hburst⟩

end ChipEight.Processor
