import ChipEight.Proofs.Processor.Burst
import ChipEight.Proofs.Processor.Footprint

/-!
# The host's side of a state

A state has a part that a program works on by itself, and a part that it shares with its host: the
timers, the keypad, the wait for a key, and whether the display is due to be shown. A program writes
to the host's side with several instructions, but it looks there with four only: one reads the delay
timer, one waits for a key and two ask whether a key is held.

So two states that agree in the rest, `SameWork`, are led to such states again by every step that
executes none of the four (`SameWork.step`). Between two steps a host may do to its side whatever it
likes. `Leads` says that steps from some states, in turn, come to that, and `Leads.sameWork` that
what the host does makes no difference to the work: it is settled by the state in front and by how
many steps there are.
-/

namespace ChipEight

/-- Whether an instruction looks at the host's side: it reads the delay timer or looks at keys. -/
def Instruction.asksHost : Instruction → Bool
  | .readDelay _ | .awaitKey _ | .skipIfHeld _ | .skipUnlessHeld _ => true
  | _ => false

namespace Processor

variable {s t u : Processor} {i : Instruction}

/-- The word at the program counter is `Fx07`, `Fx0A`, `Ex9E` or `ExA1`. -/
def AsksHost (s : Processor) : Prop :=
  ∃ i spare, s.fetch = .ok (Instruction.toWord i spare) ∧ i.asksHost

/-- A state asks the host if the instruction that its program counter leads to does. -/
theorem asksHost_iff :
    s.AsksHost ↔ ∃ i ∈ s.fetch.toOption.bind Instruction.ofWord?, i.asksHost := by
  constructor
  · rintro ⟨i, spare, hfetch, hi⟩
    refine ⟨i, ?_, hi⟩
    rw [hfetch]
    exact Instruction.ofWord?_toWord i spare
  · rintro ⟨i, hdecode, hi⟩
    obtain ⟨w, hfetch, hw⟩ := Option.bind_eq_some_iff.1 hdecode
    rcases hword : s.fetch with failure | word
    · rw [hword] at hfetch
      cases hfetch
    · rw [hword] at hfetch
      cases hfetch
      exact ⟨i, _, by rw [hword, Instruction.toWord_of_ofWord? hw], hi⟩

instance (s : Processor) : Decidable s.AsksHost :=
  decidable_of_iff' _ asksHost_iff

/-! ### The two sides -/

/-- The part of a state that a program shares with its host. -/
structure HostSide where
  /-- The delay timer. -/
  delay : Int
  /-- The sound timer. -/
  sound : Int
  /-- The keypad. -/
  keypad : Keypad
  /-- Whether an instruction is waiting for a key. -/
  waiting : Bool
  /-- Whether the display is due to be shown. -/
  dirty : Bool

/-- The state with another host's side. -/
def withHostSide (s : Processor) (side : HostSide) : Processor :=
  { s with
    registers := { s.registers with dt := side.delay, st := side.sound }
    display := { s.display with dirty := side.dirty }
    keypad := side.keypad
    waiting := side.waiting }

/-- **The same work.** Two states agree in all that a program works on by itself. -/
structure SameWork (s t : Processor) : Prop where
  memory : t.memory = s.memory
  /-- The byte registers. -/
  bytes : t.registers.v = s.registers.v
  index : t.registers.i = s.registers.i
  counter : t.registers.pc = s.registers.pc
  stack : t.registers.stack = s.registers.stack
  width : t.display.width = s.display.width
  height : t.display.height = s.display.height
  pixels : t.display.pixels = s.display.pixels
  opcode : t.opcode = s.opcode
  random : t.random = s.random

theorem sameWork_withHostSide (s : Processor) (side : HostSide) :
    SameWork s (s.withHostSide side) :=
  ⟨rfl, rfl, rfl, rfl, rfl, rfl, rfl, rfl, rfl, rfl⟩

/-- States of the same work differ in the host's side. -/
theorem SameWork.exists_withHostSide (h : SameWork s t) : ∃ side, t = s.withHostSide side := by
  obtain ⟨memory, ⟨v, i, pc, dt, st, stack⟩, ⟨width, height, pixels, dirty⟩, keypad, random, opcode,
    waiting⟩ := t
  obtain ⟨rfl, rfl, rfl, rfl, rfl, rfl, rfl, rfl, rfl, rfl⟩ := h
  exact ⟨⟨dt, st, keypad, waiting, dirty⟩, rfl⟩

theorem SameWork.refl (s : Processor) : SameWork s s :=
  ⟨rfl, rfl, rfl, rfl, rfl, rfl, rfl, rfl, rfl, rfl⟩

theorem SameWork.symm (h : SameWork s t) : SameWork t s :=
  ⟨h.memory.symm, h.bytes.symm, h.index.symm, h.counter.symm, h.stack.symm, h.width.symm,
    h.height.symm, h.pixels.symm, h.opcode.symm, h.random.symm⟩

theorem SameWork.trans (h : SameWork s t) (h' : SameWork t u) : SameWork s u := by
  obtain ⟨side, rfl⟩ := h.exists_withHostSide
  obtain ⟨side', rfl⟩ := h'.exists_withHostSide
  exact sameWork_withHostSide s side'

/-! ### One step -/

theorem storeAtIndex_withHostSide (s : Processor) (side : HostSide) (block : List UInt8) :
    (s.withHostSide side).storeAtIndex block =
      (s.storeAtIndex block).map fun done ↦ (done.1, done.2.withHostSide side) := by
  unfold storeAtIndex
  rw [apply_ite (Except.map _)]
  rfl

theorem putFrom_withTimers (r : Registers) (dt st : Int) (start : Nat) (bytes : List UInt8) :
    Registers.putFrom { r with dt, st } start bytes = { r.putFrom start bytes with dt, st } := by
  induction bytes generalizing r start with
  | nil => rfl
  | cons byte rest ih =>
    unfold Registers.putFrom
    split
    · exact ih (r.put _ byte) (start + 1)
    · rfl

/-- An instruction that does not look at the host's side does the same with another one, except for
what it writes there. -/
theorem exists_execute_withHostSide (hi : ¬ i.asksHost) (side : HostSide) :
    ∃ side', (s.withHostSide side).execute i =
      (s.execute i).map fun done ↦ (done.1, done.2.withHostSide side') := by
  cases i
  case readDelay | awaitKey | skipIfHeld | skipUnlessHeld => exact absurd rfl hi
  -- The instructions that write to the host's side.
  case clearDisplay => exact ⟨{ side with dirty := true }, rfl⟩
  case setDelay x => exact ⟨{ side with delay := (s.reg x).toNat }, rfl⟩
  case setSound x => exact ⟨{ side with sound := (s.reg x).toNat }, rfl⟩
  case draw x y rows =>
    refine ⟨{ side with dirty := true }, ?_⟩
    rw [execute_draw, execute_draw]
    unfold drawSprite
    rw [apply_ite (Except.map _)]
    refine if_congr Iff.rfl rfl ?_
    show Except.map _ (Display.draw { s.display with dirty := side.dirty } (s.reg x).toNat
      (s.reg y).toNat (s.memory.block s.registers.i rows.val)) = _
    rw [Display.draw_withDirty, Display.draw_eq]
    split <;> rfl
  -- The instructions that may fail.
  case callReturn =>
    refine ⟨side, ?_⟩
    have hframes : (s.withHostSide side).registers.stack.frames = s.registers.stack.frames := rfl
    rw [execute_callReturn, execute_callReturn, hframes]
    cases s.registers.stack.frames <;> rfl
  case call a =>
    refine ⟨side, ?_⟩
    rw [execute_call, execute_call, apply_ite (Except.map _)]
    rfl
  case storeDecimal x =>
    rw [execute_storeDecimal, execute_storeDecimal]
    exact ⟨side, storeAtIndex_withHostSide s side _⟩
  case storeUpTo x =>
    rw [execute_storeUpTo, execute_storeUpTo]
    exact ⟨side, storeAtIndex_withHostSide s side _⟩
  case loadUpTo x =>
    refine ⟨side, ?_⟩
    rw [execute_loadUpTo, execute_loadUpTo, apply_ite (Except.map _)]
    refine if_congr Iff.rfl rfl ?_
    exact congrArg (fun registers ↦ Except.ok (Outcome.next, (s.withHostSide side).withRegisters
      registers)) (putFrom_withTimers s.registers side.delay side.sound 0 _)
  all_goals exact ⟨side, rfl⟩

theorem settle_withHostSide (s : Processor) (side : HostSide) (o : Outcome) :
    (s.withHostSide side).settle o = (s.settle o).withHostSide side := by
  cases o <;> rfl

/-- A word whose instruction does not look at the host's side is performed alike with another
one. -/
theorem exists_perform_withHostSide {w : Nat}
    (hw : ∀ i, Instruction.ofWord? w = some i → ¬ i.asksHost) (side : HostSide) :
    ∃ side', (s.withHostSide side).perform w =
      (s.perform w).map fun done ↦ (done.1, done.2.withHostSide side') := by
  unfold perform
  rcases hdecode : Instruction.ofWord? w with - | i
  · exact ⟨side, rfl⟩
  · obtain ⟨side', hdone⟩ := exists_execute_withHostSide (s := s) (hw i hdecode) side
    refine ⟨side', ?_⟩
    dsimp only
    rw [hdone]
    rcases s.execute i with failure | ⟨o, t⟩
    · rfl
    · exact congrArg (fun u ↦ Except.ok (o, u)) (settle_withHostSide t side' o)

/-- A step that does not look at the host's side does the same with another one. -/
theorem exists_step_withHostSide (h : ¬ s.AsksHost) (side : HostSide) :
    ∃ side', (s.withHostSide side).step = (s.step.1, s.step.2.withHostSide side') := by
  have hfetch : (s.withHostSide side).fetch = s.fetch := fetch_congr rfl rfl
  rw [step_eq_perform, step_eq_perform, hfetch]
  rcases hword : s.fetch with failure | w
  · exact ⟨side, rfl⟩
  · have hw (i : Instruction) (hdecode : Instruction.ofWord? w = some i) : ¬ i.asksHost :=
      fun hi ↦ h ⟨i, _, by rw [hword, Instruction.toWord_of_ofWord? hdecode], hi⟩
    obtain ⟨side', hperform⟩ :=
      exists_perform_withHostSide (s := { s with opcode := w }) hw side
    have hother : perform { s.withHostSide side with opcode := w } w = _ := hperform
    dsimp only
    rw [hother]
    -- A step that fails writes nothing to the host's side.
    rcases perform { s with opcode := w } w with failure | ⟨o, t⟩
    · exact ⟨side, rfl⟩
    · exact ⟨side', rfl⟩

/-- **A step of the same work.** Where a step does not look at the host's side, it does the same in
every state of the same work. -/
theorem SameWork.step (h : SameWork s t) (hasks : ¬ s.AsksHost) :
    t.step.1 = s.step.1 ∧ SameWork s.step.2 t.step.2 := by
  obtain ⟨side, rfl⟩ := h.exists_withHostSide
  obtain ⟨side', hstep⟩ := exists_step_withHostSide hasks side
  rw [hstep]
  exact ⟨rfl, sameWork_withHostSide s.step.2 side'⟩

/-! ### Runs -/

/-- Steps from some states, in turn, lead from one state to another, if nothing but the host's side
changes between them. -/
inductive Leads : Processor → List Processor → Processor → Prop
  /-- No step, only the host. -/
  | done {s t : Processor} (h : SameWork s t) : Leads s [] t
  /-- The host, then a step, then the rest. -/
  | step {s t u : Processor} {rest : List Processor} (h : SameWork s u)
      (hrest : Leads u.step.2 rest t) : Leads s (u :: rest) t

namespace Leads

variable {states later : List Processor}

theorem of_sameWork (h : SameWork s t) (hleads : Leads t states u) : Leads s states u := by
  cases hleads with
  | done hdone => exact .done (h.trans hdone)
  | step hfirst hrest => exact .step (h.trans hfirst) hrest

theorem append (h : Leads s states t) (hlater : Leads t later u) : Leads s (states ++ later) u := by
  induction h with
  | done hdone => exact of_sameWork hdone hlater
  | step hfirst _ ih => exact .step hfirst (ih hlater)

theorem trans_sameWork (h : Leads s states t) (hafter : SameWork t u) : Leads s states u := by
  have happend := h.append (.done hafter)
  rwa [List.append_nil] at happend

/-- **The host makes no difference.** Two runs of equally many steps that start with the same work,
of which the first one does not look at the host's side, have equal results step by step, and end
with the same work. -/
theorem sameWork {s' t' : Processor} {states' : List Processor} (h : Leads s states t)
    (h' : Leads s' states' t') (hstart : SameWork s s') (hlength : states.length = states'.length)
    (hasks : ∀ u ∈ states, ¬ u.AsksHost) :
    states'.map (fun u ↦ u.step.1) = states.map (fun u ↦ u.step.1) ∧ SameWork t t' := by
  induction h generalizing s' states' with
  | done hdone =>
    cases h' with
    | done hdone' => exact ⟨rfl, (hdone.symm.trans hstart).trans hdone'⟩
    | step => cases hlength
  | step hfirst _ ih =>
    cases h' with
    | done => cases hlength
    | step hfirst' hrest' =>
      have hsame := (hfirst.symm.trans hstart).trans hfirst'
      obtain ⟨hresult, hafter⟩ := hsame.step (hasks _ List.mem_cons_self)
      obtain ⟨hresults, hend⟩ := ih hrest' hafter (Nat.succ.inj hlength) fun u hu ↦
        hasks u (List.mem_cons_of_mem _ hu)
      refine ⟨?_, hend⟩
      rw [List.map_cons, List.map_cons, hresult, hresults]

end Leads

/-- A burst is steps from the states that it attempts, with nothing between them. -/
theorem leads_burst (s : Processor) (cycles : Nat) :
    Leads s (s.attempts cycles) (s.burst cycles).2 := by
  induction cycles generalizing s with
  | zero => exact .done (SameWork.refl s)
  | succ cycles ih =>
    obtain ⟨result, t, hresult, hends⟩ | ⟨o, t, hresult, ho⟩ := s.ends_or_goes
    · rw [attempts_succ_of_ends hresult hends, burst_succ_of_ends hresult hends, ← hresult]
      exact .step (SameWork.refl s) (.done (SameWork.refl s.step.2))
    · rw [attempts_succ_of_goes hresult ho, burst_succ_of_goes hresult ho]
      have hrest := ih t
      refine .step (SameWork.refl s) ?_
      rw [hresult]
      exact hrest

end Processor

end ChipEight
