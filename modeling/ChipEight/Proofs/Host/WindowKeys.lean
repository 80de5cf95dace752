import ChipEight.Proofs.Host.Keymap
import ChipEight.Proofs.Host.Poll
import ChipEight.Proofs.Keypad.Fresh
import Mathlib.Data.List.Induction

/-!
# Keys of a window

A poll of a window goes through its events in turn. What it does to one key can be followed by
itself: in a keymap that was read a key has one code, so the events of other codes leave the key
alone (`Inputs.isDown_windowEvent`), and what the key is after the poll is decided by the last event
of its code (`Inputs.isDown_windowEvents`). The mark of a key goes with any event that lets it go
(`Inputs.isLatched_windowEvents`).

Whether the poll asks to quit depends on the events alone, and no event ends it: the events behind a
request to quit count as those in front of it do. `Inputs.window_poll_by_last_event` says so of
every poll.

The key that asks to quit is set apart. A keymap may give its code to a key of the keypad, which
then goes down with it and is never let go.
-/

namespace ChipEight

/-- The event is that the key with this code goes down or up. -/
def HostEvent.Moves (code : Int) (event : HostEvent) : Prop :=
  event = .keyDown code ∨ event = .keyUp code

instance (code : Int) : DecidablePred (HostEvent.Moves code) :=
  fun event ↦ inferInstanceAs (Decidable (event = .keyDown code ∨ event = .keyUp code))

/-- The last event in which the key with this code goes down or up. -/
def HostEvent.lastMove? (code : Int) (events : List HostEvent) : Option HostEvent :=
  events.reverse.find? (Moves code)

/-- Whether a window with this keymap has a use for the event: it asks to quit, or its code stands
for a key. -/
def HostEvent.concerns (keymap : Keymap) : HostEvent → Bool
  | .quit => true
  | .keyDown code => (keymap.key? code).isSome
  | .keyUp code => code == Inputs.escape || (keymap.key? code).isSome
  | .typed _ | .press _ | .release _ | .other => false

namespace Inputs

variable {α : Type} [TimeNumber α] {keymap : Keymap} {text : String} {k : Keypad} {key : Key}
  {code : Int} {event : HostEvent} {events : List HostEvent}

/-! ### One event -/

/-- An event that the window has no use for does nothing. -/
theorem windowEvent_of_not_concerns (h : event.concerns keymap = false) :
    windowEvent keymap k event = (false, k) := by
  cases event with
  | quit => cases h
  | keyDown code =>
    have hkey : keymap.key? code = none := by simpa [HostEvent.concerns] using h
    simp only [windowEvent, hkey]
  | keyUp code =>
    obtain ⟨hescape, hkey⟩ : code ≠ escape ∧ keymap.key? code = none := by
      simpa [HostEvent.concerns] using h
    simp only [windowEvent, hkey, if_neg hescape]
  | typed _ | press _ | release _ | other => rfl

theorem isDown_keyDown :
    (windowEvent keymap k (.keyDown code)).2.isDown key =
      if keymap.key? code = some key then true else k.isDown key := by
  simp only [windowEvent]
  rcases keymap.key? code with - | pressed
  · simp
  · simp [Keypad.isDown_press]

theorem isLatched_keyDown :
    (windowEvent keymap k (.keyDown code)).2.isLatched key = k.isLatched key := by
  simp only [windowEvent]
  rcases keymap.key? code with - | pressed
  · rfl
  · exact Keypad.isLatched_press

theorem isDown_keyUp (hescape : code ≠ escape) :
    (windowEvent keymap k (.keyUp code)).2.isDown key =
      if keymap.key? code = some key then false else k.isDown key := by
  simp only [windowEvent, if_neg hescape]
  rcases keymap.key? code with - | released
  · simp
  · simp [Keypad.isDown_release]

theorem isLatched_keyUp (hescape : code ≠ escape) :
    (windowEvent keymap k (.keyUp code)).2.isLatched key =
      if keymap.key? code = some key then false else k.isLatched key := by
  simp only [windowEvent, if_neg hescape]
  rcases keymap.key? code with - | released
  · simp
  · simp [Keypad.isLatched_release]

/-- The event of the key that asks to quit leaves the keypad as it is. -/
theorem windowEvent_escape : windowEvent keymap k (.keyUp escape) = (true, k) := rfl

section OneCode

-- The code stands for the key, and no other one does.
variable (hcode : ∀ other, keymap.key? other = some key ↔ other = code) (hescape : code ≠ escape)

include hcode hescape

/-- **One event** moves a key if it is of the key's code, and leaves the key alone otherwise. -/
theorem isDown_windowEvent (event : HostEvent) :
    (windowEvent keymap k event).2.isDown key =
      if event.Moves code then decide (event = .keyDown code) else k.isDown key := by
  cases event with
  | keyDown other => simp [isDown_keyDown, hcode, HostEvent.Moves]
  | keyUp other =>
    by_cases hquits : other = escape
    · subst hquits
      simp [windowEvent_escape, HostEvent.Moves, hescape.symm]
    · simp [isDown_keyUp hquits, hcode, HostEvent.Moves]
  | quit | typed _ | press _ | release _ | other => simp [windowEvent, HostEvent.Moves]

/-- One event takes the mark of a key away if it lets the key go. -/
theorem isLatched_windowEvent (event : HostEvent) :
    (windowEvent keymap k event).2.isLatched key =
      (k.isLatched key && decide (event ≠ .keyUp code)) := by
  cases event with
  | keyDown other => simp [isLatched_keyDown]
  | keyUp other =>
    by_cases hquits : other = escape
    · subst hquits
      simp [windowEvent_escape, hescape.symm]
    · simp only [isLatched_keyUp hquits, hcode]
      by_cases hother : other = code <;> simp [hother]
  | quit | typed _ | press _ | release _ | other => simp [windowEvent]

end OneCode

/-! ### A poll -/

theorem windowEvents_concat (keymap : Keymap) (k : Keypad) (events : List HostEvent)
    (event : HostEvent) :
    (windowEvents keymap k (events ++ [event])).2 =
      (windowEvent keymap (windowEvents keymap k events).2 event).2 := by
  simp [windowEvents, List.foldl_append]

/-- The events that the window has no use for can be left out. -/
theorem windowEvents_filter (keymap : Keymap) (k : Keypad) (events : List HostEvent) :
    windowEvents keymap k (events.filter (HostEvent.concerns keymap)) =
      windowEvents keymap k events := by
  unfold windowEvents
  rw [List.foldl_filter]
  refine List.foldl_ext _ _ _ fun ⟨quit, pad⟩ event _ ↦ ?_
  split
  · rfl
  · rename_i hnot
    dsimp only
    rw [windowEvent_of_not_concerns (Bool.eq_false_iff.2 hnot), Bool.or_false]

section OneCode

variable (hcode : ∀ other, keymap.key? other = some key ↔ other = code) (hescape : code ≠ escape)

include hcode hescape

/-- **The last event** of a key's code decides what the key is after the poll. -/
theorem isDown_windowEvents (events : List HostEvent) :
    (windowEvents keymap k events).2.isDown key = true ↔
      HostEvent.lastMove? code events = some (.keyDown code) ∨
        (HostEvent.lastMove? code events = none ∧ k.isDown key = true) := by
  induction events using List.reverseRecOn with
  | nil => simp [windowEvents, HostEvent.lastMove?]
  | append_singleton events event ih =>
    rw [windowEvents_concat, isDown_windowEvent hcode hescape]
    unfold HostEvent.lastMove? at ih ⊢
    rw [List.reverse_concat, List.find?_cons]
    by_cases hmoves : event.Moves code
    · simp [hmoves]
    · simp only [hmoves, if_false, decide_false]
      exact ih

/-- Any event that lets a key go takes its mark away, and no other event does. -/
theorem isLatched_windowEvents (events : List HostEvent) :
    (windowEvents keymap k events).2.isLatched key =
      (k.isLatched key && decide (.keyUp code ∉ events)) := by
  induction events using List.reverseRecOn with
  | nil => simp [windowEvents]
  | append_singleton events event ih =>
    rw [windowEvents_concat, isLatched_windowEvent hcode hescape, ih, Bool.and_assoc,
      ← Bool.decide_and]
    simp [eq_comm]

end OneCode

/-- **A poll of a window** with a keymap that was read. It succeeds, asks to quit exactly if the
window was closed or the key for it went up, and goes through all events in any case. A key with
another code than that is held afterwards exactly if it went down in the last event of its code, or
there is none and it was held before. Its mark is taken away exactly if it went up, and is otherwise
as it was. Events of other codes and of other kinds change nothing. -/
theorem window_poll_by_last_event (hparse : Keymap.parse false text = .ok keymap)
    (events : List HostEvent) (now : α) (k : Keypad) :
    ∃ polled, (window keymap).poll events now k =
        (.ok (decide (.quit ∈ events ∨ .keyUp escape ∈ events)), window keymap, polled) ∧
      (∀ key, ∃ code, Keymap.Assigns false text key code) ∧
      (∀ key code, Keymap.Assigns false text key code → code ≠ escape →
        (polled.isDown key = true ↔
          HostEvent.lastMove? code events = some (.keyDown code) ∨
            (HostEvent.lastMove? code events = none ∧ k.isDown key = true)) ∧
        polled.isLatched key = (k.isLatched key && decide (.keyUp code ∉ events))) ∧
      (window keymap).poll (events.filter (HostEvent.concerns keymap)) now k =
        (window keymap).poll events now k := by
  refine ⟨(windowEvents keymap k events).2, ?_, Keymap.exists_assigns hparse, ?_, ?_⟩
  · unfold poll
    dsimp only
    rw [windowEvents_fst]
  · intro key code hassigns hescape
    have hcode (other : Int) : keymap.key? other = some key ↔ other = code := by
      rw [Keymap.key?_of_parse hparse]
      exact ⟨fun hother ↦ hother.unique hassigns, fun heq ↦ heq ▸ hassigns⟩
    exact ⟨isDown_windowEvents hcode hescape events, isLatched_windowEvents hcode hescape events⟩
  · unfold poll
    dsimp only
    rw [windowEvents_filter]

/-- The window is closed while key `0` is held and marked. The events behind that let the key go and
hold key `1`, and Escape goes up. -/
theorem window_poll_by_last_event_closing :
    ∃ keymap, Keymap.parse false Keymap.usual = .ok keymap ∧ ∃ polled,
      (window keymap : Inputs Scalar).poll
          [.keyDown 120, .quit, .keyUp 120, .keyDown 200, .keyUp escape, .keyDown 49]
          (.real 0) (Keypad.released.press 0).latch =
        (.ok true, window keymap, polled) ∧
      (polled.isDown 0 = false ∧ polled.isLatched 0 = false) ∧ polled.isDown 1 = true := by
  obtain ⟨keymap, hparse⟩ : ∃ keymap, Keymap.parse false Keymap.usual = .ok keymap := ⟨_, rfl⟩
  obtain ⟨polled, hpoll, -, hkeys, -⟩ := window_poll_by_last_event hparse
    [.keyDown 120, .quit, .keyUp 120, .keyDown 200, .keyUp escape, .keyDown 49]
    (.real 0 : Scalar) (Keypad.released.press 0).latch
  obtain ⟨hdown, hlatched⟩ := hkeys 0 120 ⟨"120", rfl, 120, rfl, rfl⟩ (by decide)
  have hother := (hkeys 1 49 ⟨"49", rfl, 49, rfl, rfl⟩ (by decide)).1
  refine ⟨keymap, hparse, polled, hpoll, ⟨?_, hlatched⟩, hother.2 (.inl rfl)⟩
  exact Bool.eq_false_iff.2 fun h ↦ absurd (hdown.1 h) (by decide)

end Inputs

end ChipEight
