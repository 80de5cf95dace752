import ChipEight.Proofs.Keypad.Fresh
import ChipEight.Proofs.Processor.Event
import ChipEight.Proofs.Processor.Footprint

/-!
# Waiting for a key

The instruction `Fx0A` waits for a key to be pressed. Which key ends the wait is a question about
the whole history since the wait began: a key that is held now and was not held then, or was let go
since. The processor keeps no history. It keeps one mark for each key and a flag, marks the held
keys when the wait begins, and clears the mark of a key that is let go.

The two agree. `isLatched_after` is the invariant of the wait: a key is marked exactly if it was
held when the wait began and was not let go since. So the keys that end a wait are those of the
history, `Fresh`, and `step_after_of_fresh` and `step_after_of_not_fresh` say what the step at the
end of any history does.

The flag is raised in front of an `Fx0A` only (`Justified`).
-/

namespace ChipEight

/-- The events of a run before its first step, all of them if it has none. -/
def Event.beforeStep (events : List Event) : List Event :=
  events.takeWhile (· ≠ .step)

/-- The events of a run from its first step on. -/
def Event.sinceStep (events : List Event) : List Event :=
  events.dropWhile (· ≠ .step)

namespace Processor

variable {s t : Processor} {x : Reg} {key : Key} {event : Event} {events : List Event}

/-! ### One step of a wait -/

/-- The word `Fx0A`. -/
def awaitWord (x : Reg) : Nat :=
  0xF00A + 0x100 * x.val

theorem toWord_awaitKey (x : Reg) (spare : Nibble) :
    (Instruction.awaitKey x).toWord spare = awaitWord x := by
  show 0x1000 * 15 + 0x100 * x.val + 0x10 * 0 + 10 = 0xF00A + 0x100 * x.val
  omega

theorem ofWord?_awaitWord (x : Reg) : Instruction.ofWord? (awaitWord x) = some (.awaitKey x) := by
  rw [← toWord_awaitKey x 0, Instruction.ofWord?_toWord]

/-- The state after a step by which a wait goes on. -/
def kept (s : Processor) (x : Reg) : Processor :=
  { s with opcode := awaitWord x, keypad := s.watched, waiting := true }

/-- The state after a step by which a key ends a wait. -/
def ended (s : Processor) (x : Reg) (key : Key) : Processor :=
  { s with
    opcode := awaitWord x
    keypad := s.watched
    waiting := false
    registers := (s.registers.put x (UInt8.ofNat key.val)).advance }

/-- In front of `Fx0A` a step ends the wait with the lowest key that counts, if there is one. -/
theorem step_eq_awaitKey (h : s.fetch = .ok (awaitWord x)) :
    s.step = match s.watched.firstFresh? with
      | none => (.ok .wait, s.kept x)
      | some key => (.ok .next, s.ended x key) := by
  obtain ⟨hinside, hword⟩ := fetch_eq_ok_iff.1 h
  have hwatched : watched { s with opcode := awaitWord x } = s.watched := rfl
  rw [step_eq, if_neg hinside, hword, ofWord?_awaitWord]
  dsimp only
  rw [execute_awaitKey, awaitKey_eq, hwatched]
  cases s.watched.firstFresh? <;> rfl

/-- A step in front of `Fx0A` that does not end the wait. -/
theorem on_step_of_ne_next (h : s.fetch = .ok (awaitWord x)) (hresult : s.step.1 ≠ .ok .next) :
    s.watched.firstFresh? = none ∧ s.on .step = s.kept x := by
  have hstep := step_eq_awaitKey h
  rcases hfresh : s.watched.firstFresh? with - | key
  · rw [hfresh] at hstep
    exact ⟨rfl, congrArg Prod.snd hstep⟩
  · rw [hfresh] at hstep
    exact absurd (congrArg Prod.fst hstep) hresult

/-! ### The history of a wait -/

/-- A wait for a key is in progress. -/
structure WaitsFor (s : Processor) (x : Reg) : Prop where
  waiting : s.waiting = true
  fetch : s.fetch = .ok (awaitWord x)

theorem waitsFor_kept (h : s.fetch = .ok (awaitWord x)) : (s.kept x).WaitsFor x :=
  ⟨rfl, (fetch_congr rfl rfl).trans h⟩

/-- Ticks and keys do not disturb the word in front of the processor. -/
theorem fetch_on_of_ne_step (hevent : event ≠ .step) : (s.on event).fetch = s.fetch := by
  cases event
  case step => exact absurd rfl hevent
  all_goals exact fetch_congr rfl rfl

theorem waiting_on_of_ne_step (hevent : event ≠ .step) : (s.on event).waiting = s.waiting := by
  cases event
  case step => exact absurd rfl hevent
  all_goals rfl

theorem WaitsFor.on_of_ne_step (h : s.WaitsFor x) (hevent : event ≠ .step) :
    (s.on event).WaitsFor x :=
  ⟨(waiting_on_of_ne_step hevent).trans h.waiting, (fetch_on_of_ne_step hevent).trans h.fetch⟩

/-- A wait in progress looks at the keypad as it is. -/
theorem WaitsFor.watched_eq (h : s.WaitsFor x) : s.watched = s.keypad :=
  if_pos h.waiting

/-- **The invariant of a wait.** Until a key ends it, a wait stays in progress, and what is marked
at its end was marked at its beginning and has not been let go. -/
theorem WaitsFor.after (h : s.WaitsFor x) (hresults : .ok .next ∉ s.results events) :
    (s.after events).WaitsFor x ∧
      ∀ key, (s.after events).keypad.isLatched key = true ↔
        s.keypad.isLatched key = true ∧ .release key ∉ events := by
  induction events generalizing s with
  | nil => exact ⟨h, fun key ↦ by simp [Processor.after]⟩
  | cons event rest ih =>
    rw [after_cons]
    cases event with
    | step =>
      rw [results_cons_step, List.mem_cons, not_or] at hresults
      obtain ⟨-, hkept⟩ := on_step_of_ne_next h.fetch (Ne.symm hresults.1)
      have hkeypad : (s.on .step).keypad = s.keypad := by
        rw [hkept]
        exact h.watched_eq
      have hstep : (s.on .step).WaitsFor x := hkept ▸ waitsFor_kept h.fetch
      obtain ⟨hrest, hmarks⟩ := ih hstep hresults.2
      refine ⟨hrest, fun key ↦ ?_⟩
      rw [hmarks, hkeypad]
      simp
    | tick =>
      obtain ⟨hrest, hmarks⟩ := ih (h.on_of_ne_step (by decide)) hresults
      refine ⟨hrest, fun key ↦ ?_⟩
      rw [hmarks]
      simp [on, withRegisters]
    | press pressed =>
      have hevent : Event.press pressed ≠ .step := fun h ↦ by cases h
      obtain ⟨hrest, hmarks⟩ := ih (h.on_of_ne_step hevent) hresults
      refine ⟨hrest, fun key ↦ ?_⟩
      rw [hmarks]
      simp [on, Keypad.isLatched_press]
    | release released =>
      have hevent : Event.release released ≠ .step := fun h ↦ by cases h
      obtain ⟨hrest, hmarks⟩ := ih (h.on_of_ne_step hevent) hresults
      refine ⟨hrest, fun key ↦ ?_⟩
      rw [hmarks, List.mem_cons, not_or]
      show (s.keypad.release released).isLatched key = true ∧ _ ↔ _
      rw [Keypad.isLatched_release]
      by_cases hkey : released = key
      · simp [hkey]
      · simp [hkey, Ne.symm hkey]

/-- **The marks are the history.** From the beginning of a wait until a key ends it, the word in
front of the processor stays the same, and a step at the end finds a key marked exactly if it was
held at the first step and not let go since. -/
theorem isLatched_after (hwaiting : s.waiting = false) (hfetch : s.fetch = .ok (awaitWord x))
    (hresults : .ok .next ∉ s.results events) :
    (s.after events).fetch = .ok (awaitWord x) ∧
      ∀ key, (s.after events).watched.isLatched key = true ↔
        (s.after (Event.beforeStep events)).keypad.isDown key = true ∧
          .release key ∉ Event.sinceStep events := by
  induction events generalizing s with
  | nil =>
    have hwatched : s.watched = s.keypad.latch := if_neg (by simp [hwaiting])
    refine ⟨hfetch, fun key ↦ ?_⟩
    show s.watched.isLatched key = true ↔ s.keypad.isDown key = true ∧ Event.release key ∉ []
    rw [hwatched, Keypad.isLatched_latch]
    simp
  | cons event rest ih =>
    cases event with
    | step =>
      -- The wait begins here: the held keys are marked, and from now on the flag is up.
      rw [results_cons_step, List.mem_cons, not_or] at hresults
      obtain ⟨-, hkept⟩ := on_step_of_ne_next hfetch (Ne.symm hresults.1)
      have hstep : (s.on .step).WaitsFor x := hkept ▸ waitsFor_kept hfetch
      have hwatched : s.watched = s.keypad.latch := if_neg (by simp [hwaiting])
      obtain ⟨hrest, hmarks⟩ := hstep.after hresults.2
      refine ⟨hrest.fetch, fun key ↦ ?_⟩
      rw [after_cons, hrest.watched_eq, hmarks, hkept]
      show s.watched.isLatched key = true ∧ _ ↔
        s.keypad.isDown key = true ∧ Event.release key ∉ .step :: rest
      rw [hwatched, Keypad.isLatched_latch]
      simp
    | tick => exact ih hwaiting ((fetch_congr rfl rfl).trans hfetch) hresults
    | press pressed => exact ih hwaiting ((fetch_congr rfl rfl).trans hfetch) hresults
    | release released => exact ih hwaiting ((fetch_congr rfl rfl).trans hfetch) hresults

/-- A key counts for a wait at the step that follows some events: it is held then, and it was not
held at the first step or has been let go since. The first step is the step that follows if there is
none among the events, so no key counts there. -/
def Fresh (s : Processor) (events : List Event) (key : Key) : Prop :=
  (s.after events).keypad.isDown key = true ∧
    ((s.after (Event.beforeStep events)).keypad.isDown key = false ∨
      .release key ∈ Event.sinceStep events)

theorem isDown_watched (s : Processor) (key : Key) :
    s.watched.isDown key = s.keypad.isDown key := by
  unfold watched
  split
  · rfl
  · exact Keypad.isDown_latch

/-- The keys that count by the marks are those that count by the history. -/
theorem fresh_iff (hwaiting : s.waiting = false) (hfetch : s.fetch = .ok (awaitWord x))
    (hresults : .ok .next ∉ s.results events) :
    s.Fresh events key ↔ (s.after events).watched.isDown key = true ∧
      (s.after events).watched.isLatched key = false := by
  have hmark := (isLatched_after hwaiting hfetch hresults).2 key
  rw [Fresh, isDown_watched, ← Bool.not_eq_true (Keypad.isLatched _ _), hmark, not_and_or,
    Bool.not_eq_true, not_not]

/-- At the end of any history of a wait, the lowest key that counts ends it. -/
theorem step_after_of_fresh (hwaiting : s.waiting = false)
    (hfetch : s.fetch = .ok (awaitWord x)) (hresults : .ok .next ∉ s.results events)
    (hfresh : s.Fresh events key) (hlowest : ∀ lower < key, ¬ s.Fresh events lower) :
    (s.after events).step = (.ok .next, (s.after events).ended x key) := by
  have hfirst : (s.after events).watched.firstFresh? = some key := by
    rw [Keypad.firstFresh?_eq_some_iff]
    refine ⟨(fresh_iff hwaiting hfetch hresults).1 hfresh, fun lower hlower hcounts ↦ ?_⟩
    exact hlowest lower hlower ((fresh_iff hwaiting hfetch hresults).2 hcounts)
  rw [step_eq_awaitKey (isLatched_after hwaiting hfetch hresults).1, hfirst]

/-- At the end of any history of a wait, it goes on if no key counts. -/
theorem step_after_of_not_fresh (hwaiting : s.waiting = false)
    (hfetch : s.fetch = .ok (awaitWord x)) (hresults : .ok .next ∉ s.results events)
    (hnone : ∀ key, ¬ s.Fresh events key) :
    (s.after events).step = (.ok .wait, (s.after events).kept x) := by
  have hfirst : (s.after events).watched.firstFresh? = none := by
    rw [Keypad.firstFresh?_eq_none_iff]
    intro key hcounts
    exact hnone key ((fresh_iff hwaiting hfetch hresults).2 hcounts)
  rw [step_eq_awaitKey (isLatched_after hwaiting hfetch hresults).1, hfirst]

/-- A wait ends exactly if some key counts. -/
theorem step_after_eq_next_iff (hwaiting : s.waiting = false)
    (hfetch : s.fetch = .ok (awaitWord x)) (hresults : .ok .next ∉ s.results events) :
    (s.after events).step.1 = .ok .next ↔ ∃ key, s.Fresh events key := by
  have hstep := step_eq_awaitKey (isLatched_after hwaiting hfetch hresults).1
  rcases hfirst : (s.after events).watched.firstFresh? with - | key
  · rw [hfirst] at hstep
    have hnone := Keypad.firstFresh?_eq_none_iff.1 hfirst
    rw [hstep]
    refine iff_of_false (fun h ↦ by cases h) ?_
    rintro ⟨key, hfresh⟩
    exact hnone key ((fresh_iff hwaiting hfetch hresults).1 hfresh)
  · rw [hfirst] at hstep
    have hcounts := (Keypad.firstFresh?_eq_some_iff.1 hfirst).1
    rw [hstep]
    exact iff_of_true rfl ⟨key, (fresh_iff hwaiting hfetch hresults).2 hcounts⟩

/-! ### Steps without events between them -/

/-- Only a wait for a key has the outcome of waiting. -/
theorem eq_awaitKey_of_outcome {i : Instruction} (h : s.outcome i = .wait) :
    ∃ x, i = .awaitKey x := by
  cases i
  case awaitKey x => exact ⟨x, rfl⟩
  case skipIfByte | skipUnlessByte | skipIfEqual | skipUnlessEqual | skipIfHeld | skipUnlessHeld =>
    change (if _ then _ else _) = _ at h
    split at h <;> cases h
  all_goals cases h

/-- A step that waits is in front of `Fx0A`. -/
theorem fetch_of_step_eq_wait (h : s.step = (.ok .wait, t)) :
    ∃ x, s.fetch = .ok (awaitWord x) := by
  obtain ⟨i, u, hdecode, hfetch, hdone, -⟩ := step_eq_ok h
  have houtcome := (footprint_of_execute hdone).outcome
  obtain ⟨x, rfl⟩ := eq_awaitKey_of_outcome houtcome.symm
  exact ⟨x, by rw [hfetch, ← Instruction.toWord_of_ofWord? hdecode, toWord_awaitKey]⟩

/-- A step that waits leaves a state in which a step changes nothing. -/
theorem step_of_step_eq_wait (h : s.step = (.ok .wait, t)) : t.step = (.ok .wait, t) := by
  obtain ⟨x, hfetch⟩ := fetch_of_step_eq_wait h
  have hresult : s.step.1 ≠ .ok .next := by
    rw [h]
    exact fun hnext ↦ by cases hnext
  obtain ⟨hfirst, hkept⟩ := on_step_of_ne_next hfetch hresult
  have ht : t = s.kept x := by
    rw [← hkept, on, h]
  subst ht
  have hagain := step_eq_awaitKey (waitsFor_kept hfetch).fetch
  have hwatched : (s.kept x).watched = s.watched := rfl
  rw [hwatched, hfirst] at hagain
  exact hagain

/-- Steps that follow a step that waits, with nothing between them, change nothing. -/
theorem after_replicate_of_step_eq_wait (h : s.step = (.ok .wait, t)) (n : Nat) :
    t.after (List.replicate n .step) = t ∧
      ∀ result ∈ t.results (List.replicate n .step), result = .ok .wait := by
  have hstep := step_of_step_eq_wait h
  have hon : t.on .step = t := congrArg Prod.snd hstep
  induction n with
  | zero => exact ⟨rfl, fun _ hresult ↦ absurd hresult List.not_mem_nil⟩
  | succ n ih =>
    rw [List.replicate_succ, after_cons, results_cons_step, hon]
    refine ⟨ih.1, fun result hresult ↦ ?_⟩
    rcases List.mem_cons.1 hresult with rfl | hresult
    · exact congrArg Prod.fst hstep
    · exact ih.2 result hresult

/-! ### The flag -/

/-- If the flag of a wait is up, then the word at the program counter is `Fx0A`. -/
def Justified (s : Processor) : Prop :=
  s.waiting = true → ∃ x, s.fetch = .ok (awaitWord x)

/-- **An instruction leaves the flag justified.** -/
theorem Justified.settle (h : s.Justified) (hfetch : s.fetch = .ok s.word) {i : Instruction}
    {o : Outcome} (hdecode : Instruction.ofWord? s.word = some i)
    (hdone : s.execute i = .ok (o, t)) : (t.settle o).Justified := by
  have f := footprint_of_execute hdone
  intro hwaiting
  rw [settle_eq] at hwaiting ⊢
  change t.waiting = true at hwaiting
  rw [f.waiting] at hwaiting
  by_cases hawait : ∃ x, i = .awaitKey x
  · -- The wait goes on, so memory and the program counter are the same.
    obtain ⟨x, rfl⟩ := hawait
    change s.watched.firstFresh?.isNone = true at hwaiting
    have hword := Instruction.toWord_of_ofWord? hdecode
    have ho : o = .wait := f.outcome.trans (if_pos hwaiting)
    have hpc : t.registers.pc + o.stride = s.registers.pc := by
      rw [f.counter, ho]
      exact Int.add_zero _
    have hsame : fetch (t.withRegisters { t.registers with pc := t.registers.pc + o.stride }) =
        s.fetch := fetch_congr f.memory hpc
    exact ⟨x, by rw [hsame, hfetch, ← hword, toWord_awaitKey]⟩
  · -- Another instruction does not raise the flag, and does not meet it raised.
    have hother : s.nextWaiting i = s.waiting := by
      cases i
      case awaitKey x => exact absurd ⟨x, rfl⟩ hawait
      all_goals rfl
    obtain ⟨x, hx⟩ := h (hother ▸ hwaiting)
    have hword : s.word = awaitWord x := (fetch_eq_ok_iff.1 hx).2
    rw [hword, ofWord?_awaitWord] at hdecode
    exact absurd ⟨x, (Option.some.inj hdecode).symm⟩ hawait

/-- **Every event leaves the flag justified.** -/
theorem Justified.on (h : s.Justified) (event : Event) : (s.on event).Justified := by
  cases event with
  | step =>
    show s.step.2.Justified
    rcases hstep : s.step with ⟨failure | outcome, t⟩
    · rw [step_eq_error hstep]
      exact h
    · obtain ⟨i, u, hdecode, hfetch, hdone, rfl⟩ := step_eq_ok hstep
      have hopcode : Justified { s with opcode := s.word } := h
      exact hopcode.settle hfetch hdecode hdone
  | tick => exact h
  | press key => exact h
  | release key => exact h

end Processor

end ChipEight
