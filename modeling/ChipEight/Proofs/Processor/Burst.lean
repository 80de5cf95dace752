import ChipEight.Proofs.Processor.Event

/-!
# Bursts

A frame gives the processor a budget of cycles. What comes of it is a matter of the processor alone,
since nothing else happens until the budget is used up, or until an instruction waits or fails:
`burst` is the state that it leads to, and `attempts` lists the states in front of the instructions
that are attempted on the way.

The lemmas follow the recursion. A step ends a burst or goes on to another one (`ends_or_goes`), and
each of the two cases has its equations. An instruction that waits or fails is the last one to be
attempted (`burst_of_getElem?_attempts`), and a burst without one uses up its budget
(`length_attempts_of_ok`).
-/

namespace ChipEight.Processor

variable {s t : Processor} {cycles : Nat}

/-- What a budget of cycles comes to: instructions are executed until the budget is used up, or one
of them waits or fails. Yields how the last one ended and the state it left. -/
def burst (s : Processor) : Nat → Except Failure Outcome × Processor
  | 0 => (.ok .next, s)
  | cycles + 1 =>
    match s.step with
    | (.error failure, t) => (.error failure, t)
    | (.ok .wait, t) => (.ok .wait, t)
    | (.ok _, t) => t.burst cycles

/-- The states in front of the instructions that a budget of cycles attempts. -/
def attempts (s : Processor) : Nat → List Processor
  | 0 => []
  | cycles + 1 =>
    s :: match s.step with
      | (.error _, _) | (.ok .wait, _) => []
      | (.ok _, t) => t.attempts cycles

/-- The result of an instruction that waits or fails, which ends a burst. -/
def Ends (result : Except Failure Outcome) : Prop :=
  ∀ o, result = .ok o → o = .wait

theorem ends_error (failure : Failure) : Ends (.error failure) :=
  fun _ h ↦ by cases h

theorem ends_wait : Ends (.ok .wait) :=
  fun _ h ↦ (Except.ok.inj h).symm

section Cases

variable {result : Except Failure Outcome} {o : Outcome}

theorem burst_succ_of_ends (h : s.step = (result, t)) (hends : Ends result) :
    s.burst (cycles + 1) = (result, t) := by
  rw [burst, h]
  rcases result with failure | o
  · rfl
  · rw [hends o rfl]

theorem attempts_succ_of_ends (h : s.step = (result, t)) (hends : Ends result) :
    s.attempts (cycles + 1) = [s] := by
  rw [attempts, h]
  rcases result with failure | o
  · rfl
  · rw [hends o rfl]

theorem burst_succ_of_goes (h : s.step = (.ok o, t)) (ho : o ≠ .wait) :
    s.burst (cycles + 1) = t.burst cycles := by
  rw [burst, h]
  cases o
  case wait => exact absurd rfl ho
  all_goals rfl

theorem attempts_succ_of_goes (h : s.step = (.ok o, t)) (ho : o ≠ .wait) :
    s.attempts (cycles + 1) = s :: t.attempts cycles := by
  rw [attempts, h]
  cases o
  case wait => exact absurd rfl ho
  all_goals rfl

/-- A step ends a burst or goes on to another one. -/
theorem ends_or_goes (s : Processor) :
    (∃ result t, s.step = (result, t) ∧ Ends result) ∨ ∃ o t, s.step = (.ok o, t) ∧ o ≠ .wait := by
  rcases hstep : s.step with ⟨failure | o, t⟩
  · exact .inl ⟨_, _, rfl, ends_error failure⟩
  · by_cases ho : o = .wait
    · exact .inl ⟨_, _, rfl, ho ▸ ends_wait⟩
    · exact .inr ⟨_, _, rfl, ho⟩

end Cases

/-! ### How a burst ends -/

/-- **An attempt that waits or fails** is the last one, and the burst ends as it does. -/
theorem burst_of_getElem?_attempts {k : Nat} (ht : (s.attempts cycles)[k]? = some t)
    (hends : Ends t.step.1) : (s.attempts cycles).length = k + 1 ∧ s.burst cycles = t.step := by
  induction cycles generalizing s k with
  | zero => cases ht
  | succ cycles ih =>
    obtain ⟨result, u, hresult, hresultEnds⟩ | ⟨o, u, hresult, ho⟩ := s.ends_or_goes
    · rw [attempts_succ_of_ends hresult hresultEnds] at ht ⊢
      rw [burst_succ_of_ends hresult hresultEnds]
      obtain ⟨rfl, rfl⟩ : 0 = k ∧ s = t := by
        cases k with
        | zero => exact ⟨rfl, Option.some.inj ht⟩
        | succ => cases ht
      exact ⟨rfl, hresult.symm⟩
    · rw [attempts_succ_of_goes hresult ho] at ht ⊢
      rw [burst_succ_of_goes hresult ho]
      cases k with
      | zero =>
        -- The first step went on, so it did not end the burst.
        obtain rfl : s = t := Option.some.inj ht
        exact absurd (hends o (by rw [hresult])) ho
      | succ k =>
        rw [List.getElem?_cons_succ] at ht
        obtain ⟨hlength, hburst⟩ := ih ht
        exact ⟨by rw [List.length_cons, hlength], hburst⟩

theorem burst_of_mem_attempts (ht : t ∈ s.attempts cycles) (hends : Ends t.step.1) :
    s.burst cycles = t.step := by
  obtain ⟨k, hk⟩ := List.mem_iff_getElem?.1 ht
  exact (burst_of_getElem?_attempts hk hends).2

/-- A burst ends with a wait exactly if one of its instructions waits. -/
theorem burst_eq_wait_iff :
    (s.burst cycles).1 = .ok .wait ↔ ∃ t ∈ s.attempts cycles, t.step.1 = .ok .wait := by
  constructor
  · intro hwait
    induction cycles generalizing s with
    | zero => cases hwait
    | succ cycles ih =>
      obtain ⟨result, u, hresult, hends⟩ | ⟨o, u, hresult, ho⟩ := s.ends_or_goes
      · rw [burst_succ_of_ends hresult hends] at hwait
        rw [attempts_succ_of_ends hresult hends]
        exact ⟨s, List.mem_singleton_self s, by rw [hresult, ← hwait]⟩
      · rw [burst_succ_of_goes hresult ho] at hwait
        rw [attempts_succ_of_goes hresult ho]
        obtain ⟨t, ht, hstep⟩ := ih hwait
        exact ⟨t, List.mem_cons_of_mem s ht, hstep⟩
  · rintro ⟨t, ht, hstep⟩
    rw [burst_of_mem_attempts ht (hstep ▸ ends_wait), hstep]

theorem length_attempts_le (s : Processor) (cycles : Nat) :
    (s.attempts cycles).length ≤ cycles := by
  induction cycles generalizing s with
  | zero => exact Nat.le_refl 0
  | succ cycles ih =>
    obtain ⟨result, u, hresult, hends⟩ | ⟨o, u, hresult, ho⟩ := s.ends_or_goes
    · rw [attempts_succ_of_ends hresult hends]
      exact Nat.succ_le_succ (Nat.zero_le cycles)
    · rw [attempts_succ_of_goes hresult ho]
      exact Nat.succ_le_succ (ih u)

/-- **A burst that neither waits nor fails** uses up its budget. -/
theorem length_attempts_of_ok {o : Outcome} (h : (s.burst cycles).1 = .ok o) (ho : o ≠ .wait) :
    (s.attempts cycles).length = cycles := by
  induction cycles generalizing s with
  | zero => rfl
  | succ cycles ih =>
    obtain ⟨result, u, hresult, hends⟩ | ⟨_, u, hresult, hgoes⟩ := s.ends_or_goes
    · rw [burst_succ_of_ends hresult hends] at h
      exact absurd (hends o h) ho
    · rw [burst_succ_of_goes hresult hgoes] at h
      rw [attempts_succ_of_goes hresult hgoes, List.length_cons, ih h]

/-! ### Invariants -/

/-- What a step preserves, a burst preserves. -/
theorem burst_invariant {P : Processor → Prop} (hstep : ∀ s, P s → P s.step.2) (h : P s)
    (cycles : Nat) : P (s.burst cycles).2 := by
  induction cycles generalizing s with
  | zero => exact h
  | succ cycles ih =>
    have hafter := hstep s h
    obtain ⟨result, t, hresult, hends⟩ | ⟨o, t, hresult, ho⟩ := s.ends_or_goes
    · rw [hresult] at hafter
      rw [burst_succ_of_ends hresult hends]
      exact hafter
    · rw [hresult] at hafter
      rw [burst_succ_of_goes hresult ho]
      exact ih hafter

end ChipEight.Processor
