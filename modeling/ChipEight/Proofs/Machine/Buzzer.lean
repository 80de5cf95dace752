import ChipEight.Proofs.Machine.Entries
import ChipEight.Proofs.TimeNumber.Exact
import Mathlib.Data.List.Chain

/-!
# The buzzer

Two parts of an operation change the buzzer: the end of a frame and the return to power-on. The
machine notes whether it last turned the buzzer on and tells its audio device only of a change; the
device makes the same note, and looks for a change once more. `Buzzed` says that the two notes agree
and that the changes, the tone and the beeps recorded so far fit them. It holds at every moment of a
run from power-on (`buzzer_coherent`), where a frame broke off as well, so no tone is left playing
and none is started twice.
-/

namespace ChipEight

variable {α : Type}

/-! ### Sounds -/

namespace HostCall

/-- Whether the call starts the tone or stops it, if it does either. -/
def tone? : HostCall → Option Bool
  | .play _ => some true
  | .stop => some false
  | _ => none

/-- The call rings the bell. -/
def isBeep : HostCall → Bool
  | .beep => true
  | _ => false

variable {c : HostCall}

theorem tone?_eq_none (h : ¬ c.IsSound) : c.tone? = none := by
  cases c
  case play => exact absurd trivial h
  case stop => exact absurd trivial h
  all_goals rfl

theorem isBeep_eq_false (h : ¬ c.IsSound) : c.isBeep = false := by
  cases c
  case beep => exact absurd trivial h
  all_goals rfl

end HostCall

namespace Audio

variable {a : Audio} {enabled : Bool}

/-- A device that was brought up is silent. -/
theorem buzzing_create [TimeNumber α] {device : AudioDevice} {calls : List HostCall}
    (h : Audio.create (α := α) device = (.ok a, calls)) : a.device = device ∧ a.buzzing = false := by
  cases device with
  | silent => cases h; exact ⟨rfl, rfl⟩
  | bell => cases h; exact ⟨rfl, rfl⟩
  | mixer =>
    unfold create openMixer at h
    dsimp only at h
    split at h
    · cases h
    · cases h
      exact ⟨rfl, rfl⟩

/-- A mixer that is told of a change starts the tone or stops it. -/
theorem tones_setBuzzer (h : enabled ≠ a.buzzing) (hdevice : a.device = .mixer) :
    (a.setBuzzer enabled).2.filterMap HostCall.tone? = [enabled] := by
  obtain ⟨device, buzzing⟩ := a
  obtain rfl : device = .mixer := hdevice
  cases enabled <;> cases buzzing
  case false.true => rfl
  case true.false => rfl
  all_goals exact absurd rfl h

/-- A bell that is told of a change rings if the buzzer goes on. -/
theorem beeps_setBuzzer (h : enabled ≠ a.buzzing) (hdevice : a.device = .bell) :
    (a.setBuzzer enabled).2.countP HostCall.isBeep = enabled.toNat := by
  obtain ⟨device, buzzing⟩ := a
  obtain rfl : device = .bell := hdevice
  cases enabled <;> cases buzzing
  case false.true => rfl
  case true.false => rfl
  all_goals exact absurd rfl h

end Audio

namespace Journal

/-- The starts of the tone and its stops, in order. -/
def tones (j : Journal α) : List Bool :=
  j.calls.filterMap HostCall.tone?

/-- How often the bell rang. -/
def beeps (j : Journal α) : Nat :=
  j.calls.countP HostCall.isBeep

theorem tones_append (j added : Journal α) : (j ++ added).tones = j.tones ++ added.tones := by
  unfold tones
  rw [calls_append, List.filterMap_append]

theorem beeps_append (j added : Journal α) : (j ++ added).beeps = j.beeps + added.beeps := by
  unfold beeps
  rw [calls_append, List.countP_append]

/-- The entry neither changes the buzzer nor makes a sound. -/
def IsQuiet : Entry α → Prop
  | .buzzer _ => False
  | .call c => ¬ c.IsSound
  | _ => True

variable {j k : Journal α}

theorem not_isSound_of_mem_calls (h : ∀ entry ∈ j, IsQuiet entry) {c : HostCall} (hc : c ∈ j.calls) :
    ¬ c.IsSound := by
  obtain ⟨entry, hentry, heq⟩ := List.mem_filterMap.1 hc
  have hquiet := h entry (Array.mem_toList_iff.1 hentry)
  cases entry
  case call =>
    cases heq
    exact hquiet
  all_goals cases heq

/-- Quiet entries add no sounds. -/
theorem Adds.sounds_eq (h : Adds IsQuiet j k) : k.tones = j.tones ∧ k.beeps = j.beeps := by
  obtain ⟨added, rfl, hadded⟩ := h
  have hquiet : ∀ c ∈ added.calls, ¬ c.IsSound := fun c hc ↦ not_isSound_of_mem_calls hadded hc
  have htones : added.tones = [] :=
    List.filterMap_eq_nil_iff.2 fun c hc ↦ HostCall.tone?_eq_none (hquiet c hc)
  have hbeeps : added.beeps = 0 :=
    List.countP_eq_zero.2 fun c hc ↦ by simp [HostCall.isBeep_eq_false (hquiet c hc)]
  rw [tones_append, htones, List.append_nil, beeps_append, hbeeps]
  exact ⟨rfl, rfl⟩

end Journal

/-- A list that alternates goes on with another item than its last one. -/
theorem isChain_ne_concat {l : List Bool} {start item : Bool}
    (h : (start :: l).IsChain (· ≠ ·)) (hitem : item ≠ l.getLastD start) :
    (start :: (l ++ [item])).IsChain (· ≠ ·) := by
  rw [← List.cons_append]
  refine h.append (List.isChain_singleton item) fun last hlast next hnext ↦ ?_
  rw [List.getLast?_cons, Option.mem_some_iff, ← List.getLastD_eq_getLast?] at hlast
  rw [List.head?_singleton, Option.mem_some_iff] at hnext
  rw [← hlast, ← hnext]
  exact hitem.symm

namespace Machine

variable {m n : Machine α}

/-! ### What the changes of the buzzer leave -/

/-- What is noted about the buzzer agrees with what was done. -/
structure Buzzed (m : Machine α) : Prop where
  /-- The machine and its device agree. -/
  agrees : m.buzzing = m.audio.buzzing
  /-- The last change is the one that is noted. -/
  last : m.journal.buzzers.getLastD false = m.buzzing
  /-- The buzzer goes on and off in turn, on first. -/
  alternates : (false :: m.journal.buzzers).IsChain (· ≠ ·)
  /-- A mixer starts and stops its tone as the buzzer goes on and off. -/
  tones : m.audio.device = .mixer → m.journal.tones = m.journal.buzzers

/-- A machine that is told the state of its buzzer again ignores it. -/
theorem setBuzzer_of_eq {enabled : Bool} (h : enabled = m.buzzing) : m.setBuzzer enabled = m :=
  if_pos h

/-- A change of the buzzer is recorded, and the device is told. -/
theorem setBuzzer_of_ne {enabled : Bool} (h : enabled ≠ m.buzzing) :
    m.setBuzzer enabled = { m with
      audio := (m.audio.setBuzzer enabled).1
      buzzing := enabled
      journal := m.journal.push (.buzzer enabled) ++
        Journal.ofCalls (m.audio.setBuzzer enabled).2 } :=
  if_neg h

/-- The views of a journal with a change of the buzzer and calls added. -/
theorem views_of_change (j : Journal α) (enabled : Bool) (calls : List HostCall) :
    Journal.buzzers (j.push (.buzzer enabled) ++ Journal.ofCalls calls) = j.buzzers ++ [enabled] ∧
      Journal.tones (j.push (.buzzer enabled) ++ Journal.ofCalls calls) =
        j.tones ++ calls.filterMap HostCall.tone? ∧
      Journal.beeps (j.push (.buzzer enabled) ++ Journal.ofCalls calls) =
        j.beeps + calls.countP HostCall.isBeep := by
  have hbuzzers : Journal.buzzers #[Entry.buzzer (α := α) enabled] = [enabled] := rfl
  have htones : Journal.tones #[Entry.buzzer (α := α) enabled] = [] := rfl
  have hbeeps : Journal.beeps #[Entry.buzzer (α := α) enabled] = 0 := rfl
  rw [Array.push_eq_append]
  refine ⟨?_, ?_, ?_⟩
  · rw [Journal.buzzers_append, Journal.buzzers_append, hbuzzers, Journal.buzzers_ofCalls,
      List.append_nil]
  · rw [Journal.tones_append, Journal.tones_append, htones, List.append_nil, Journal.tones,
      Journal.tones, Journal.calls_ofCalls]
  · rw [Journal.beeps_append, Journal.beeps_append, hbeeps, Nat.add_zero, Journal.beeps,
      Journal.beeps, Journal.calls_ofCalls]

/-- What is made of the buzzer from one machine to the next. -/
structure Rings (m n : Machine α) : Prop where
  /-- The agreement holds. -/
  buzzed : n.Buzzed
  /-- The device is the same one. -/
  device : n.audio.device = m.audio.device
  /-- A bell rings if the buzzer goes on. -/
  beeps : m.audio.device = .bell →
    n.journal.beeps = m.journal.beeps + (!m.buzzing && n.buzzing).toNat

/-- Nothing is made of the buzzer. -/
theorem Buzzed.rings (h : m.Buzzed) : Rings m m :=
  ⟨h, rfl, fun _ ↦ by rw [Bool.not_and_self]; rfl⟩

theorem buzzing_setBuzzer (m : Machine α) (enabled : Bool) :
    (m.setBuzzer enabled).buzzing = enabled := by
  obtain ⟨_, _, hbuzzer⟩ := m.exists_setBuzzer enabled
  rw [hbuzzer]

/-- **A change of the buzzer** keeps the agreement, and rings a bell if the buzzer goes on. -/
theorem Buzzed.setBuzzer (h : m.Buzzed) (enabled : Bool) : Rings m (m.setBuzzer enabled) := by
  by_cases henabled : enabled = m.buzzing
  · rw [setBuzzer_of_eq henabled]
    exact h.rings
  · have hdevice : enabled ≠ m.audio.buzzing := h.agrees ▸ henabled
    obtain ⟨hbuzzers, htones, hbeeps⟩ :=
      views_of_change m.journal enabled (m.audio.setBuzzer enabled).2
    rw [setBuzzer_of_ne henabled]
    refine ⟨⟨rfl, ?_, ?_, fun hmixer ↦ ?_⟩, rfl, fun hbell ↦ ?_⟩
    · rw [hbuzzers, List.getLastD_concat]
    · rw [hbuzzers]
      exact isChain_ne_concat h.alternates (h.last ▸ henabled)
    · rw [hbuzzers, htones, h.tones hmixer, Audio.tones_setBuzzer hdevice hmixer]
    · rw [hbeeps, Audio.beeps_setBuzzer hdevice hbell, Bool.eq_not.2 (Ne.symm henabled),
        Bool.not_not, Bool.and_self]

/-- What does not touch the buzzer, and makes no sound, keeps the agreement. -/
theorem Buzzed.of_quiet (h : m.Buzzed) (hbuzzing : n.buzzing = m.buzzing)
    (haudio : n.audio = m.audio) (hquiet : Journal.Adds Journal.IsQuiet m.journal n.journal) :
    n.Buzzed := by
  have hbuzzers : n.journal.buzzers = m.journal.buzzers := hquiet.buzzers_eq fun _ h ↦ h
  obtain ⟨htones, -⟩ := hquiet.sounds_eq
  refine ⟨?_, ?_, ?_, fun hmixer ↦ ?_⟩
  · rw [hbuzzing, haudio, h.agrees]
  · rw [hbuzzers, hbuzzing, h.last]
  · rw [hbuzzers]
    exact h.alternates
  · rw [haudio] at hmixer
    rw [htones, hbuzzers, h.tones hmixer]

/-- What does not touch the buzzer, and makes no sound, adds nothing to what was made of it. -/
theorem Rings.of_quiet {k : Machine α} (h : Rings m n) (hbuzzing : k.buzzing = n.buzzing)
    (haudio : k.audio = n.audio) (hquiet : Journal.Adds Journal.IsQuiet n.journal k.journal) :
    Rings m k where
  buzzed := h.buzzed.of_quiet hbuzzing haudio hquiet
  device := haudio ▸ h.device
  beeps hbell := by rw [hquiet.sounds_eq.2, h.beeps hbell, hbuzzing]

/-! ### The buzzer in the parts of an operation -/

theorem isQuiet_of_isText {entry : Entry α} (h : entry.IsText) : Journal.IsQuiet entry := by
  cases entry
  case log => exact trivial
  case line => exact trivial
  all_goals cases h

/-- The parts that do not touch the buzzer write quiet entries. -/
theorem isQuiet_of_writes {part : Part α} (hfinish : ∀ elapsed, part ≠ .finish elapsed)
    (hreset : part ≠ .reset) {entry : Entry α} (h : part.Writes entry) : Journal.IsQuiet entry := by
  cases part with
  | poll events now => cases h
  | grant elapsed => cases h
  | attempt => exact isQuiet_of_isText h
  | ticks elapsed => cases h
  | refresh =>
    obtain ⟨_, rfl⟩ | ⟨c, hc, rfl⟩ := h
    · exact trivial
    · exact hc
  | finish elapsed => exact absurd rfl (hfinish elapsed)
  | step => exact isQuiet_of_isText h
  | reset => exact absurd rfl hreset
  | load program => exact isQuiet_of_isText h

variable [TimeNumber α]

/-- Only the end of a frame and the return to power-on touch the buzzer. -/
theorem buzzing_pass {part : Part α} (hfinish : ∀ elapsed, part ≠ .finish elapsed)
    (hreset : part ≠ .reset) :
    (m.pass part).buzzing = m.buzzing ∧ (m.pass part).audio = m.audio := by
  cases part with
  | poll events now => exact ⟨rfl, rfl⟩
  | grant elapsed => exact ⟨rfl, rfl⟩
  | attempt =>
    obtain ⟨_, hattempt⟩ := m.exists_attempt
    show m.attempt.buzzing = _ ∧ m.attempt.audio = _
    rw [hattempt]
    exact ⟨rfl, rfl⟩
  | ticks elapsed =>
    show (m.runTimers elapsed).2.buzzing = _ ∧ (m.runTimers elapsed).2.audio = _
    rcases hadvance : m.timers.advance elapsed with ⟨failure | ticks, timers⟩
    · rw [runTimers_of_error hadvance]
      exact ⟨rfl, rfl⟩
    · rw [runTimers_of_ok hadvance]
      exact ⟨rfl, rfl⟩
  | refresh =>
    show m.refreshDisplay.2.buzzing = _ ∧ m.refreshDisplay.2.audio = _
    unfold refreshDisplay showDisplay
    split
    · dsimp only
      split
      · exact ⟨rfl, rfl⟩
      · exact ⟨rfl, rfl⟩
    · exact ⟨rfl, rfl⟩
  | finish elapsed => exact absurd rfl (hfinish elapsed)
  | step =>
    obtain ⟨_, hstep⟩ := m.exists_step
    show m.step.2.buzzing = _ ∧ m.step.2.audio = _
    rw [hstep]
    exact ⟨rfl, rfl⟩
  | reset => exact absurd rfl hreset
  | load program =>
    obtain ⟨_, _, _, _, -, hload⟩ := m.exists_load_fields program
    show (m.load program).2.buzzing = _ ∧ (m.load program).2.audio = _
    rw [hload]
    exact ⟨rfl, rfl⟩

/-- On the way back to power-on the buzzer goes off. -/
theorem Buzzed.reset (h : m.Buzzed) : Rings m m.reset.2 ∧ m.reset.2.buzzing = false := by
  have hstart : Buzzed { m with
      core := resetCore m.core
      timers := m.timers.reset
      budget := m.budget.forfeit } := ⟨h.agrees, h.last, h.alternates, h.tones⟩
  obtain ⟨hbuzzed, hdevice, hbeeps⟩ := hstart.setBuzzer false
  have hcleared : Rings m m.cleared := ⟨hbuzzed, hdevice, hbeeps⟩
  obtain ⟨_, _, _, _, hjournal, hreset⟩ := m.exists_reset_fields
  rw [hreset]
  exact ⟨hcleared.of_quiet rfl rfl (hjournal.mono fun _ ↦ isQuiet_of_isText), buzzing_setBuzzer _ false⟩

/-- **Every part keeps** what is noted about the buzzer in agreement. -/
theorem Buzzed.pass (h : m.Buzzed) (part : Part α) : Rings m (m.pass part) := by
  by_cases hfinish : ∀ elapsed, part ≠ .finish elapsed
  · by_cases hreset : part = .reset
    · subst hreset
      exact h.reset.1
    · obtain ⟨hbuzzing, haudio⟩ := buzzing_pass (m := m) hfinish hreset
      exact h.rings.of_quiet hbuzzing haudio
        ((m.journal_pass part).mono fun _ ↦ isQuiet_of_writes hfinish hreset)
  · obtain ⟨elapsed, hpart⟩ := not_forall_not.1 hfinish
    subst hpart
    exact (h.setBuzzer _).of_quiet rfl rfl (.push trivial)

/-- How often the buzzer goes on in a run of parts. -/
def rises (m : Machine α) : List (Part α) → Nat
  | [] => 0
  | part :: rest => (!m.buzzing && (m.pass part).buzzing).toNat + (m.pass part).rises rest

/-- **Moments.** The agreement holds after any parts, and a bell rang as often as the buzzer went
on. -/
theorem Buzzed.afterParts (h : m.Buzzed) (parts : List (Part α)) :
    (m.afterParts parts).Buzzed ∧ (m.afterParts parts).audio.device = m.audio.device ∧
      (m.audio.device = .bell →
        (m.afterParts parts).journal.beeps = m.journal.beeps + m.rises parts) := by
  induction parts generalizing m with
  | nil => exact ⟨h, rfl, fun _ ↦ rfl⟩
  | cons part rest ih =>
    have hrings := h.pass part
    obtain ⟨hbuzzed, hdevice, hbeeps⟩ := ih hrings.buzzed
    rw [afterParts_cons]
    refine ⟨hbuzzed, hdevice.trans hrings.device, fun hbell ↦ ?_⟩
    rw [hbeeps (hrings.device.trans hbell), hrings.beeps hbell, rises, Nat.add_assoc]

/-- **A frame that completes** leaves the buzzer as the sound timer has it. -/
theorem buzzing_of_runFrame {elapsed now : α} {events : List HostEvent}
    (h : m.runFrame elapsed events now = (.ok true, n)) :
    n.buzzing = decide (n.core.registers.st > 0) := by
  obtain ⟨_, _, _, shown, -, -, -, -, rfl⟩ := exists_stages_of_runFrame h
  show (shown.setBuzzer _).buzzing = decide ((shown.setBuzzer _).core.registers.st > 0)
  rw [buzzing_setBuzzer, setBuzzer_core]

section PowerOn

variable {renderer : Renderer} {inputs : Inputs α} {audio : Audio} {speed : Setting α}
  {debugger : Debugger} {seed : Setting Int} {keypadShared : Bool}

/-- A machine that was created with a device that is off has changed nothing about it. -/
theorem buzzed_create (h : create renderer inputs audio speed debugger seed keypadShared = .ok m)
    (hoff : audio.buzzing = false) : m.Buzzed ∧ m.audio = audio ∧ m.journal.beeps = 0 := by
  have hquiet : Journal.Adds Journal.IsQuiet #[] m.journal :=
    (journal_create h).mono fun entry hentry ↦ by
      obtain rfl | ⟨c, hc, rfl⟩ := hentry
      · exact trivial
      · exact hc
  have hbuzzers : m.journal.buzzers = [] := hquiet.buzzers_eq fun _ h ↦ h
  obtain ⟨htones, hbeeps⟩ := hquiet.sounds_eq
  obtain ⟨_, _, _, _, -, -, rfl⟩ := exists_created h
  refine ⟨⟨hoff.symm, ?_, ?_, fun _ ↦ htones.trans hbuzzers.symm⟩, rfl, hbeeps⟩
  · rw [hbuzzers]
    rfl
  · rw [hbuzzers]
    exact List.isChain_singleton false

/-- **The buzzer is coherent.** A run of operations is a run of their parts, one after another, so
its moments are those after parts in turn: between operations, between two instructions of a frame,
and where a frame broke off. At every moment of every run from power-on with a device that is off,

* the buzzer went on and off in turn, on first;
* the machine and its device agree on whether it is on;
* a frame that completes leaves it on exactly if the sound timer is above zero, and a return to
  power-on leaves it off;
* a mixer started and stopped its tone in turn, and the tone plays exactly if the buzzer is on;
* a bell rang as often as the buzzer went on. -/
theorem buzzer_coherent
    (h : create renderer inputs audio speed debugger seed keypadShared = .ok m)
    (hoff : audio.buzzing = false) :
    (∀ operations, m.afterAll operations = m.afterParts (m.partsAll operations)) ∧
    ∀ parts : List (Part α),
      (false :: (m.afterParts parts).journal.buzzers).IsChain (· ≠ ·) ∧
      (m.afterParts parts).buzzing = (m.afterParts parts).audio.buzzing ∧
      (∀ elapsed events now n,
        (m.afterParts parts).runFrame elapsed events now = (.ok true, n) →
          n.buzzing = decide (n.core.registers.st > 0) ∧
            n.audio.buzzing = decide (n.core.registers.st > 0)) ∧
      ((m.afterParts parts).reset.2.buzzing = false ∧
        (m.afterParts parts).reset.2.audio.buzzing = false) ∧
      (audio.device = .mixer →
        (false :: (m.afterParts parts).journal.tones).IsChain (· ≠ ·) ∧
          (m.afterParts parts).journal.tones.getLastD false = (m.afterParts parts).buzzing) ∧
      (audio.device = .bell → (m.afterParts parts).journal.beeps = m.rises parts) := by
  obtain ⟨hstart, haudio, hnone⟩ := buzzed_create h hoff
  refine ⟨m.afterAll_eq, fun parts ↦ ?_⟩
  obtain ⟨hbuzzed, hdevice, hbeeps⟩ := hstart.afterParts parts
  rw [haudio] at hdevice hbeeps
  refine ⟨hbuzzed.alternates, hbuzzed.agrees, ?_, ?_, fun hmixer ↦ ?_, fun hbell ↦ ?_⟩
  · intro elapsed events now n hframe
    have hbuzzing := buzzing_of_runFrame hframe
    have hframed : ((m.afterParts parts).operate (.frame elapsed events now)).Buzzed := by
      rw [operate_eq]
      exact (hbuzzed.afterParts _).1
    rw [show (m.afterParts parts).operate (.frame elapsed events now) = n from
      congrArg Prod.snd hframe] at hframed
    exact ⟨hbuzzing, hframed.agrees.symm.trans hbuzzing⟩
  · obtain ⟨hrings, hfalse⟩ := hbuzzed.reset
    exact ⟨hfalse, hrings.buzzed.agrees.symm.trans hfalse⟩
  · rw [hbuzzed.tones (hdevice.trans hmixer)]
    exact ⟨hbuzzed.alternates, hbuzzed.last⟩
  · rw [hbeeps hbell, hnone, Nat.zero_add]

/-- A program that sets the sound timer, run by two steps and a frame, and then forgotten. -/
def soundingParts : List (Part ℚ) :=
  [.load [0x60, 0x05, 0xF0, 0x18], .step, .step, .finish 0, .reset]

/-- A mixer that was brought up starts its tone at the end of the frame and stops it with the return
to power-on. -/
theorem buzzer_coherent_sounding :
    ∃ audio calls, Audio.create (α := ℚ) .mixer = (.ok audio, calls) ∧
      ∃ m : Machine ℚ, create (Renderer.fresh .headless 1 "") .script audio (.given 700) .absent
          (.given 1) true = .ok m ∧
        (m.afterParts soundingParts).journal.tones = [true, false] ∧
        (false :: (m.afterParts soundingParts).journal.tones).IsChain (· ≠ ·) ∧
        (m.afterParts soundingParts).journal.tones.getLastD false =
          (m.afterParts soundingParts).buzzing := by
  have hdevice : (Audio.create (α := ℚ) .mixer).1 = .ok ⟨.mixer, false⟩ := by decide +kernel
  have haudio : Audio.create (α := ℚ) .mixer =
      (.ok ⟨.mixer, false⟩, (Audio.create (α := ℚ) .mixer).2) := Prod.ext hdevice rfl
  obtain ⟨m, hm, -⟩ := exists_create_headless (α := ℚ) .script ⟨.mixer, false⟩ 700
    (by decide +kernel) .absent 1 true
  have htones : (create (α := ℚ) (Renderer.fresh .headless 1 "") .script ⟨.mixer, false⟩
      (.given 700) .absent (.given 1) true).toOption.map (fun m ↦
        (m.afterParts soundingParts).journal.tones) = some [true, false] := by
    decide +kernel
  rw [hm] at htones
  obtain ⟨-, hcoherent⟩ := buzzer_coherent hm (Audio.buzzing_create haudio).2
  obtain ⟨-, -, -, -, hmixer, -⟩ := hcoherent soundingParts
  exact ⟨_, _, haudio, m, hm, Option.some.inj htones, hmixer rfl⟩

end PowerOn

end Machine

end ChipEight
