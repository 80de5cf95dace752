import ChipEight.Host.Inputs
import ChipEight.Proofs.Host.KeyHold
import ChipEight.Proofs.Host.KeyReader

/-!
# Polls that succeed

A poll fails only where a script names a key that the keypad does not have, or where the time of the
poll leaves no room for the time that a typed key is held. A host reports events that are `Valid`,
and a time that is a double leaves room. Such a poll succeeds, and whether it asks to quit can be
read off what was reported and typed (`Inputs.quits`), whatever came before and after
(`Inputs.exists_poll`).
-/

namespace ChipEight

/-- The event is one that a host reports: the keys that a script names are keys of the keypad. -/
def HostEvent.Valid : HostEvent → Prop
  | .press key | .release key => 0 ≤ key ∧ key < 16
  | .quit | .keyDown _ | .keyUp _ | .typed _ | .other => True

instance : DecidablePred HostEvent.Valid
  | .press key | .release key => inferInstanceAs (Decidable (0 ≤ key ∧ key < 16))
  | .quit | .keyDown _ | .keyUp _ | .typed _ | .other => inferInstanceAs (Decidable True)

theorem Key.exists_ofInt {key : Int} (h : 0 ≤ key ∧ key < 16) : ∃ k, Key.ofInt key = .ok k := by
  unfold ofInt Nibble.ofInt?
  rw [dif_pos h]
  exact ⟨_, rfl⟩

/-- A poll of the keys typed tells whether there was a quit mark among them. -/
theorem TerminalKeys.exists_poll (keys : TerminalKeys Scalar) (now : Float) (k : Keypad) :
    ∃ queue heldUntil keypad, keys.poll (.real now) k =
      (.ok (keys.queue.contains none), { keys with queue, heldUntil }, keypad) := by
  by_cases hquits : none ∈ keys.queue
  · rw [List.contains_iff_mem.2 hquits]
    exact ⟨_, _, _, poll_of_mem now k hquits⟩
  · rw [Bool.eq_false_iff.2 (mt List.contains_iff_mem.1 hquits)]
    exact ⟨_, _, _, poll_of_not_mem now k hquits⟩

namespace Inputs

variable {α : Type} {events : List HostEvent}

/-- Whether a poll of these inputs asks to quit, given the events reported since the last one. -/
def quits : Inputs α → List HostEvent → Bool
  | .headless, _ => false
  | .script, events => .quit ∈ events
  | .window _, events => .quit ∈ events ∨ .keyUp escape ∈ events
  | .terminal keys reader, events =>
    (keys.resume reader (events.filterMap typed?)).2.queue.contains none

/-- The second inputs are the first, except for the reader of a terminal and the keys typed
there. -/
def SameDevice (inputs polled : Inputs α) : Prop :=
  polled = inputs ∨ ∃ keys reader queue heldUntil reader', inputs = .terminal keys reader ∧
    polled = .terminal { keys with queue, heldUntil } reader'

theorem exists_scriptEvents (hevents : ∀ event ∈ events, event.Valid) (quit : Bool) (k : Keypad) :
    ∃ polled, scriptEvents quit events k = (.ok (quit || decide (.quit ∈ events)), polled) := by
  induction events generalizing quit k with
  | nil => exact ⟨k, by simp [scriptEvents]⟩
  | cons event rest ih =>
    obtain ⟨hevent, hrest⟩ := List.forall_mem_cons.1 hevents
    cases event with
    | quit =>
      obtain ⟨polled, hpolled⟩ := ih hrest true k
      exact ⟨polled, by simpa [scriptEvents] using hpolled⟩
    | press key =>
      obtain ⟨pressed, hkey⟩ := Key.exists_ofInt hevent
      obtain ⟨polled, hpolled⟩ := ih hrest quit (k.press pressed)
      exact ⟨polled, by simpa [scriptEvents, hkey] using hpolled⟩
    | release key =>
      obtain ⟨released, hkey⟩ := Key.exists_ofInt hevent
      obtain ⟨polled, hpolled⟩ := ih hrest quit (k.release released)
      exact ⟨polled, by simpa [scriptEvents, hkey] using hpolled⟩
    | keyDown code | keyUp code | typed code | other =>
      obtain ⟨polled, hpolled⟩ := ih hrest quit k
      exact ⟨polled, by simpa [scriptEvents] using hpolled⟩

theorem windowEvent_fst (keymap : Keymap) (k : Keypad) (event : HostEvent) :
    (windowEvent keymap k event).1 = decide (event = .quit ∨ event = .keyUp escape) := by
  cases event with
  | keyDown code =>
    unfold windowEvent
    dsimp only
    split <;> simp
  | keyUp code =>
    unfold windowEvent
    dsimp only
    split
    · simp [*]
    · split <;> simp [*]
  | quit | typed _ | press _ | release _ | other => rfl

theorem windowEvents_fst (keymap : Keymap) (k : Keypad) (events : List HostEvent) :
    (windowEvents keymap k events).1 = decide (.quit ∈ events ∨ .keyUp escape ∈ events) := by
  -- What was asked for before the first event stays asked for, so it is general.
  rw [← Bool.false_or (decide _)]
  unfold windowEvents
  generalize false = quit
  induction events generalizing k quit with
  | nil => simp
  | cons event rest ih =>
    rw [List.foldl_cons, ih, windowEvent_fst, Bool.eq_iff_iff]
    simp only [Bool.or_eq_true, decide_eq_true_eq, List.mem_cons]
    grind

/-- **A poll succeeds** if the events are valid and its time is a double. -/
theorem exists_poll (inputs : Inputs Scalar) (hevents : ∀ event ∈ events, event.Valid)
    (now : Float) (k : Keypad) :
    ∃ polled keypad, inputs.poll events (.real now) k =
      (.ok (inputs.quits events), polled, keypad) ∧ inputs.SameDevice polled := by
  cases inputs with
  | headless => exact ⟨_, _, rfl, .inl rfl⟩
  | script =>
    obtain ⟨keypad, hscript⟩ := exists_scriptEvents hevents false k
    refine ⟨.script, keypad, ?_, .inl rfl⟩
    unfold poll
    dsimp only
    rw [hscript, Bool.false_or]
    rfl
  | window keymap =>
    refine ⟨.window keymap, (windowEvents keymap k events).2, ?_, .inl rfl⟩
    unfold poll
    dsimp only
    rw [windowEvents_fst]
    rfl
  | terminal keys reader =>
    obtain ⟨items, hresume⟩ := keys.exists_resume reader (events.filterMap typed?)
    obtain ⟨queue, heldUntil, keypad, hpoll⟩ := (keys.queued items).exists_poll now k
    refine ⟨.terminal { keys with queue, heldUntil }
      (keys.resume reader (events.filterMap typed?)).1, keypad, ?_,
      .inr ⟨_, _, _, _, _, rfl, rfl⟩⟩
    unfold poll quits
    dsimp only
    rw [hresume, hpoll]
    rfl

end Inputs

end ChipEight
