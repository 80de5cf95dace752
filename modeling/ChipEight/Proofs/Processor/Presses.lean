import ChipEight.Proofs.Machine.Action
import ChipEight.Proofs.Processor.KeyWait

/-!
# Presses during a wait for a key

Between two steps of a wait the host reports any number of keys going down and up. The keypad holds
which keys are down, not which of them went down, so a wait does not see a press as such: the step
that follows sees a key only if it went down and stayed down (`Processor.Strikes`), or counted
before and was not let go. `step_after_of_strikes` says exactly which key ends the wait, and that
the wait goes on if there is none.

So a press is not lost as long as its key stays down until the step, which is what
`struck_key_ends_wait` asserts of every key that goes down. A key that goes down and up again
between two steps is lost: it leaves no trace, and the wait goes on (`press_lost`).
-/

namespace ChipEight.Processor

variable {s : Processor} {x : Reg} {key : Key} {event : Event} {events : List Event}

/-! ### Presses -/

/-- Among the events, a press takes the key from up to down. -/
def Presses (s : Processor) (events : List Event) (key : Key) : Prop :=
  ∃ before rest, events = before ++ .press key :: rest ∧
    (s.after before).keypad.isDown key = false

/-- Among the events, a press takes the key from up to down, and the key is not let go after it. -/
def Strikes (s : Processor) (events : List Event) (key : Key) : Prop :=
  ∃ before rest, events = before ++ .press key :: rest ∧
    (s.after before).keypad.isDown key = false ∧ .release key ∉ rest

/-- The key counts for a wait already, and is not let go among the events. -/
def Remains (s : Processor) (events : List Event) (key : Key) : Prop :=
  s.keypad.isDown key = true ∧ s.keypad.isLatched key = false ∧ .release key ∉ events

theorem Strikes.presses (h : s.Strikes events key) : s.Presses events key := by
  obtain ⟨before, rest, hevents, hup, -⟩ := h
  exact ⟨before, rest, hevents, hup⟩

theorem not_strikes_nil : ¬ s.Strikes [] key := by
  rintro ⟨before, rest, hevents, -⟩
  cases before <;> cases hevents

/-- A strike among events is the first of them or among the others. -/
theorem strikes_cons_iff :
    s.Strikes (event :: events) key ↔
      (event = .press key ∧ s.keypad.isDown key = false ∧ .release key ∉ events) ∨
        (s.on event).Strikes events key := by
  constructor
  · rintro ⟨before, rest, hevents, hup, hkept⟩
    rcases before with - | ⟨first, before⟩
    · obtain ⟨rfl, rfl⟩ := List.cons_eq_cons.1 hevents
      exact .inl ⟨rfl, hup, hkept⟩
    · obtain ⟨rfl, rfl⟩ := List.cons_eq_cons.1 hevents
      exact .inr ⟨before, rest, rfl, hup, hkept⟩
  · rintro (⟨rfl, hup, hkept⟩ | ⟨before, rest, rfl, hup, hkept⟩)
    · exact ⟨[], events, rfl, hup, hkept⟩
    · exact ⟨event :: before, rest, rfl, hup, hkept⟩

/-- A step looks at the keys and holds none. -/
theorem isDown_step : s.step.2.keypad.isDown key = s.keypad.isDown key := by
  rcases hstep : s.step with ⟨failure | outcome, t⟩
  · rw [step_eq_error hstep]
  · obtain ⟨i, u, -, -, hdone, rfl⟩ := step_eq_ok hstep
    have hkeypad := (footprint_of_execute hdone).keypad
    rw [settle_eq]
    show u.keypad.isDown key = _
    rw [hkeypad]
    cases i
    case awaitKey x => exact isDown_watched { s with opcode := s.word } key
    all_goals rfl

/-- A key is down after an event that presses it, and after one that does not let it go if it was
down. -/
theorem isDown_on_iff :
    (s.on event).keypad.isDown key = true ↔
      event = .press key ∨ (s.keypad.isDown key = true ∧ event ≠ .release key) := by
  cases event with
  | step =>
    rw [on, isDown_step]
    simp
  | tick => simp [on, withRegisters]
  | press pressed =>
    show (s.keypad.press pressed).isDown key = true ↔ _
    rw [Keypad.isDown_press]
    by_cases hkey : pressed = key <;> simp [hkey]
  | release released =>
    show (s.keypad.release released).isDown key = true ↔ _
    rw [Keypad.isDown_release]
    by_cases hkey : released = key <;> simp [hkey]

/-- **The keys that are down after some events** went down and stayed so, or were down all along. -/
theorem isDown_after_iff :
    (s.after events).keypad.isDown key = true ↔
      s.Strikes events key ∨ (s.keypad.isDown key = true ∧ .release key ∉ events) := by
  induction events generalizing s with
  | nil => simp [Processor.after, not_strikes_nil]
  | cons event rest ih =>
    have hpress : event = .press key → event ≠ .release key := by
      rintro rfl hrelease
      cases hrelease
    rw [after_cons, ih, strikes_cons_iff, isDown_on_iff, List.mem_cons, ← Bool.not_eq_true,
      @eq_comm _ (Event.release key)]
    tauto

/-! ### The step after the presses -/

/-- Events without a step have no results. -/
theorem results_eq_nil (hevents : .step ∉ events) : s.results events = [] := by
  induction events generalizing s with
  | nil => rfl
  | cons event rest ih =>
    rw [List.mem_cons, not_or] at hevents
    cases event
    case step => exact absurd rfl hevents.1
    all_goals exact ih hevents.2

/-- A wait goes on through events without a step, and what is marked after them was marked before
and has not been let go. -/
theorem WaitsFor.after_of_not_mem (h : s.WaitsFor x) (hevents : .step ∉ events) :
    (s.after events).WaitsFor x ∧
      ∀ key, (s.after events).keypad.isLatched key = true ↔
        s.keypad.isLatched key = true ∧ .release key ∉ events :=
  h.after (by rw [results_eq_nil hevents]; exact List.not_mem_nil)

/-- A marked key that is not let go does not strike, since it is down all the while. -/
theorem Strikes.not_marked (h : s.Strikes events key) (hmarked : s.keypad.Marked) :
    ¬ (s.keypad.isLatched key = true ∧ .release key ∉ events) := by
  obtain ⟨before, rest, rfl, hup, -⟩ := h
  rintro ⟨hlatched, hrelease⟩
  have hdown : (s.after before).keypad.isDown key = true :=
    isDown_after_iff.2 (.inr ⟨hmarked key hlatched, fun hmem ↦
      hrelease (List.mem_append_left _ hmem)⟩)
  rw [hup] at hdown
  cases hdown

/-- **The keys that count after some events** of a wait: those that strike, and those that counted
and remain. -/
theorem WaitsFor.counts_after_iff (h : s.WaitsFor x) (hmarked : s.keypad.Marked)
    (hevents : .step ∉ events) :
    (s.after events).watched.isDown key = true ∧ (s.after events).watched.isLatched key = false ↔
      s.Strikes events key ∨ s.Remains events key := by
  obtain ⟨hwaits, hmarks⟩ := h.after_of_not_mem hevents
  have hmark := hmarks key
  rw [hwaits.watched_eq, isDown_after_iff, ← Bool.not_eq_true (Keypad.isLatched _ _), hmark]
  constructor
  · rintro ⟨hstrikes | ⟨hdown, hkept⟩, hunmarked⟩
    · exact .inl hstrikes
    · refine .inr ⟨hdown, ?_, hkept⟩
      rw [← Bool.not_eq_true]
      exact fun hlatched ↦ hunmarked ⟨hlatched, hkept⟩
  · rintro (hstrikes | ⟨hdown, hunmarked, hkept⟩)
    · exact ⟨.inl hstrikes, hstrikes.not_marked hmarked⟩
    · refine ⟨.inr ⟨hdown, hkept⟩, fun hlatched ↦ ?_⟩
      rw [hunmarked] at hlatched
      cases hlatched.1

/-- **The step after the events** ends the wait with the lowest key that strikes or remains. -/
theorem step_after_of_strikes (h : s.WaitsFor x) (hmarked : s.keypad.Marked)
    (hevents : .step ∉ events) (hkey : s.Strikes events key ∨ s.Remains events key)
    (hlowest : ∀ lower < key, ¬ (s.Strikes events lower ∨ s.Remains events lower)) :
    (s.after events).step = (.ok .next, (s.after events).ended x key) := by
  have hfirst : (s.after events).watched.firstFresh? = some key := by
    rw [Keypad.firstFresh?_eq_some_iff]
    refine ⟨(h.counts_after_iff hmarked hevents).2 hkey, fun lower hlower hcounts ↦ ?_⟩
    exact hlowest lower hlower ((h.counts_after_iff hmarked hevents).1 hcounts)
  rw [step_eq_awaitKey (h.after_of_not_mem hevents).1.fetch, hfirst]

/-- The step after the events goes on waiting if no key strikes or remains. -/
theorem step_after_of_not_strikes (h : s.WaitsFor x) (hmarked : s.keypad.Marked)
    (hevents : .step ∉ events) (hnone : ∀ key, ¬ (s.Strikes events key ∨ s.Remains events key)) :
    (s.after events).step = (.ok .wait, (s.after events).kept x) := by
  have hfirst : (s.after events).watched.firstFresh? = none := by
    rw [Keypad.firstFresh?_eq_none_iff]
    intro key hcounts
    exact hnone key ((h.counts_after_iff hmarked hevents).1 hcounts)
  rw [step_eq_awaitKey (h.after_of_not_mem hevents).1.fetch, hfirst]

/-- A key that is up after the events neither strikes nor remains. -/
theorem not_counts_of_isDown_eq_false (hup : (s.after events).keypad.isDown key = false) :
    ¬ (s.Strikes events key ∨ s.Remains events key) := by
  rintro (hstrikes | ⟨hdown, -, hkept⟩)
  · rw [isDown_after_iff.2 (.inl hstrikes)] at hup
    cases hup
  · rw [isDown_after_iff.2 (.inr ⟨hdown, hkept⟩)] at hup
    cases hup

/-- **No press is lost while its key stays down.** During a wait, whatever ticks and keys come
before the next step, the step ends the wait with the lowest key that strikes or remains, and goes
on waiting if there is none. So where every key that goes down stays down and none counted before,
the step ends the wait with the lowest key that went down. -/
theorem struck_key_ends_wait (hreached : s.Reached) (h : s.WaitsFor x)
    (hevents : .step ∉ events) :
    (∀ key, s.Strikes events key ∨ s.Remains events key →
      (∀ lower < key, ¬ (s.Strikes events lower ∨ s.Remains events lower)) →
        (s.after events).step = (.ok .next, (s.after events).ended x key)) ∧
      ((∀ key, ¬ (s.Strikes events key ∨ s.Remains events key)) →
        (s.after events).step = (.ok .wait, (s.after events).kept x)) ∧
      ((∀ key, s.Presses events key → s.Strikes events key) → (∀ key, ¬ s.Remains events key) →
        ∀ key, s.Presses events key → (∀ lower < key, ¬ s.Presses events lower) →
          (s.after events).step = (.ok .next, (s.after events).ended x key)) := by
  have hmarked := hreached.sound.marked
  have hends (key : Key) (hkey : s.Strikes events key ∨ s.Remains events key)
      (hlowest : ∀ lower < key, ¬ (s.Strikes events lower ∨ s.Remains events lower)) :
      (s.after events).step = (.ok .next, (s.after events).ended x key) :=
    step_after_of_strikes h hmarked hevents hkey hlowest
  refine ⟨hends, step_after_of_not_strikes h hmarked hevents, fun hstay hnone key hpress hlowest ↦ ?_⟩
  refine hends key (.inl (hstay key hpress)) fun lower hlower ↦ ?_
  rintro (hstrikes | hremains)
  · exact hlowest lower hlower hstrikes.presses
  · exact hnone lower hremains

/-- A machine that has begun to wait for a key, to be stored in register five. -/
def awaitingKey : Processor :=
  ((initial (Twister.ofSeed 1)).loaded [0xF5, 0x0A]).on .step

theorem reached_awaitingKey : awaitingKey.Reached :=
  (reached_loaded 1 _).on .step

theorem waitsFor_awaitingKey : awaitingKey.WaitsFor 5 :=
  ⟨by decide +kernel, by decide +kernel⟩

/-- Key seven goes down and stays down, after key three went down and up again. The wait ends with
key seven, although key three is the lower one. -/
theorem struck_key_ends_wait_seven :
    awaitingKey.Strikes [.press 3, .release 3, .tick, .press 7] 7 ∧
      (awaitingKey.after [.press 3, .release 3, .tick, .press 7]).step =
        (.ok .next,
          (awaitingKey.after [.press 3, .release 3, .tick, .press 7]).ended 5 7) := by
  have hup : ∀ lower : Key, lower < 7 →
      (awaitingKey.after [.press 3, .release 3, .tick, .press 7]).keypad.isDown lower = false := by
    decide +kernel
  have hstrikes : awaitingKey.Strikes [.press 3, .release 3, .tick, .press 7] 7 :=
    ⟨[.press 3, .release 3, .tick], [], rfl, by decide +kernel, List.not_mem_nil⟩
  refine ⟨hstrikes, ?_⟩
  exact (struck_key_ends_wait reached_awaitingKey waitsFor_awaitingKey (by decide)).1 7
    (.inl hstrikes) fun lower hlower ↦ not_counts_of_isDown_eq_false (hup lower hlower)

/-- **A press can be lost.** Key seven goes down and up again before the next step, and the step
goes on waiting. -/
theorem press_lost :
    awaitingKey.Reached ∧ awaitingKey.WaitsFor 5 ∧
      awaitingKey.Presses [.press 7, .release 7] 7 ∧
      (awaitingKey.after [.press 7, .release 7]).step =
        (.ok .wait, (awaitingKey.after [.press 7, .release 7]).kept 5) := by
  have hup : ∀ key, (awaitingKey.after [.press 7, .release 7]).keypad.isDown key = false := by
    decide +kernel
  have hmarked := reached_awaitingKey.sound.marked
  refine ⟨reached_awaitingKey, waitsFor_awaitingKey,
    ⟨[], [.release 7], rfl, by decide +kernel⟩, ?_⟩
  exact step_after_of_not_strikes waitsFor_awaitingKey hmarked (by decide)
    fun key ↦ not_counts_of_isDown_eq_false (hup key)

end ChipEight.Processor
