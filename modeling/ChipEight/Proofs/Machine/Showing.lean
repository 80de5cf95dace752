import ChipEight.Proofs.Machine.Entries
import Mathlib.Data.List.Induction

/-!
# The display that is shown

The display of a machine carries a mark that it changed since it was shown. The mark is kept by
hand: clearing and drawing set it, showing takes it away. It is right at every moment of a run from
power-on, between two instructions and after a frame that broke off as well (`display_coherent`). A
display without the mark is the one that was handed over last, and a display with the mark has been
redrawn since then, or was never handed over. So showing the display hands it over exactly if there
is a reason to, and the number of frames shown counts how often that was.
-/

namespace ChipEight

variable {α : Type}

/-- The instruction draws the display anew. -/
def Instruction.Redraws : Instruction → Prop
  | .clearDisplay | .draw _ _ _ => True
  | _ => False

namespace Processor

variable {s t : Processor}

/-- The word at the program counter is `00E0` or `Dxyn`, and executing it succeeds. -/
def Redraws (s : Processor) : Prop :=
  (∃ o, s.step.1 = .ok o) ∧ ∃ i spare, s.fetch = .ok (Instruction.toWord i spare) ∧ i.Redraws

theorem dirty_nextDisplay {i : Instruction} (h : i.Redraws) : (s.nextDisplay i).dirty = true := by
  cases i
  case clearDisplay => rfl
  case draw => rfl
  all_goals cases h

theorem nextDisplay_eq {i : Instruction} (h : ¬ i.Redraws) : s.nextDisplay i = s.display := by
  cases i
  case clearDisplay => exact absurd trivial h
  case draw => exact absurd trivial h
  all_goals rfl

/-- A step that succeeds has the display of its instruction, which redraws if the state does. -/
theorem exists_nextDisplay {o : Outcome} (h : s.step = (.ok o, t)) :
    ∃ i, t.display = nextDisplay { s with opcode := s.word } i ∧ (s.Redraws ↔ i.Redraws) := by
  obtain ⟨i, u, hdecode, hfetch, hdone, rfl⟩ := step_eq_ok h
  refine ⟨i, ?_, ?_⟩
  · rw [settle_eq]
    exact (footprint_of_execute hdone).display
  · constructor
    · rintro ⟨-, i', spare, hfetch', hredraws⟩
      have hword : s.word = i'.toWord spare := Except.ok.inj (hfetch.symm.trans hfetch')
      rw [hword, Instruction.ofWord?_toWord] at hdecode
      exact Option.some.inj hdecode ▸ hredraws
    · intro hredraws
      obtain ⟨spare, hword⟩ := Instruction.ofWord?_eq_some_iff.1 hdecode
      exact ⟨⟨o, congrArg Prod.fst h⟩, i, spare, hfetch.trans (congrArg _ hword.symm), hredraws⟩

/-- **A state that redraws** leaves a display that is due to be shown. -/
theorem Redraws.dirty (h : s.Redraws) : s.step.2.display.dirty = true := by
  obtain ⟨⟨o, ho⟩, -⟩ := id h
  obtain ⟨i, hdisplay, hiff⟩ := exists_nextDisplay (Prod.ext ho rfl : s.step = (.ok o, s.step.2))
  rw [hdisplay]
  exact dirty_nextDisplay (hiff.1 h)

/-- **A state that does not redraw** leaves the display as it is. -/
theorem display_step (h : ¬ s.Redraws) : s.step.2.display = s.display := by
  rcases hstep : s.step with ⟨failure | o, t⟩
  · rw [step_eq_error hstep]
  · obtain ⟨i, hdisplay, hiff⟩ := exists_nextDisplay hstep
    rw [hdisplay]
    exact nextDisplay_eq (hiff.not.1 h)

theorem display_loaded (s : Processor) (program : List UInt8) :
    (s.loaded program).display = s.display := by
  unfold loaded
  split <;> rfl

end Processor

namespace Machine

variable [TimeNumber α] {m n : Machine α}

/-! ### The display in the parts of an operation -/

/-- The part draws the display anew: an instruction that redraws, or the return to power-on. -/
def Part.Redraws (m : Machine α) : Part α → Prop
  | .attempt | .step => m.core.Redraws
  | .reset => True
  | _ => False

/-- A part that redraws leaves a display that is due to be shown. -/
theorem Part.Redraws.dirty {part : Part α} (h : part.Redraws m) :
    (m.pass part).core.display.dirty = true := by
  cases part with
  | attempt =>
    obtain ⟨_, hattempt⟩ := m.exists_attempt
    show m.attempt.core.display.dirty = true
    rw [hattempt]
    exact Processor.Redraws.dirty h
  | step =>
    show m.step.2.core.display.dirty = true
    rw [core_step]
    exact Processor.Redraws.dirty h
  | reset =>
    show m.reset.2.core.display.dirty = true
    rw [core_reset, Processor.display_loaded]
    rfl
  | _ => cases h

/-- A part that does not redraw leaves the display as it is, unless it shows it. -/
theorem display_pass {part : Part α} (h : ¬ part.Redraws m) (hpart : part ≠ .refresh) :
    (m.pass part).core.display = m.core.display := by
  cases part with
  | poll events now =>
    show (m.poll events now).2.core.display = _
    unfold poll
    dsimp only
    split <;> rfl
  | grant elapsed => rfl
  | attempt =>
    obtain ⟨_, hattempt⟩ := m.exists_attempt
    show m.attempt.core.display = _
    rw [hattempt]
    exact Processor.display_step h
  | ticks elapsed =>
    show (m.runTimers elapsed).2.core.display = _
    rcases hadvance : m.timers.advance elapsed with ⟨failure | ticks, timers⟩
    · rw [runTimers_of_error hadvance]
    · rw [runTimers_of_ok hadvance]
      rfl
  | refresh => exact absurd rfl hpart
  | finish elapsed => exact congrArg Processor.display (m.setBuzzer_core _)
  | step =>
    show m.step.2.core.display = _
    rw [core_step]
    exact Processor.display_step h
  | reset => exact absurd trivial h
  | load program =>
    show (m.load program).2.core.display = _
    rw [core_load, Processor.display_loaded]

/-- Only showing the display hands it over. -/
theorem displays_pass {part : Part α} (hpart : part ≠ .refresh) :
    (m.pass part).journal.displays = m.journal.displays := by
  refine (m.journal_pass part).displays_eq fun pixels hwrites ↦ ?_
  cases part
  case refresh => exact hpart rfl
  all_goals simp [Part.Writes, Entry.IsText] at hwrites

/-- The displays handed over so far stay. -/
theorem displays_afterParts (m : Machine α) (parts : List (Part α)) :
    m.journal.displays <+: (m.afterParts parts).journal.displays :=
  afterParts_invariant (P := fun n ↦ m.journal.displays <+: n.journal.displays)
    (fun n part h ↦ h.trans (n.journal_pass part).prefix_displays) (List.prefix_refl _) parts

/-! ### Showing the display -/

omit [TimeNumber α] in
/-- A display that is not due is not handed over. -/
theorem refreshDisplay_of_clean (h : m.core.display.dirty = false) :
    m.refreshDisplay = (.ok (), m) := by
  unfold refreshDisplay
  rw [h, if_neg Bool.false_ne_true]

omit [TimeNumber α] in
/-- A display that is due is handed over, to a renderer that has room for it. -/
theorem refreshDisplay_of_dirty (h : m.core.display.dirty = true)
    (hfits : m.renderer.Fits m.core.display.pixels.size) :
    ∃ renderer journal,
      m.refreshDisplay = (.ok (), { m with
        core := { m.core with display := m.core.display.shown }
        renderer
        framesShown := m.framesShown + 1
        journal }) ∧
      Journal.displays journal = m.journal.displays ++ [m.core.display.pixels] := by
  obtain ⟨shown, calls, hrefresh, -⟩ := Renderer.refresh_of_fits hfits
  unfold refreshDisplay
  rw [if_pos h]
  unfold showDisplay
  dsimp only [record]
  rw [hrefresh]
  refine ⟨shown, _, rfl, ?_⟩
  rw [Journal.displays_append, Journal.displays_ofCalls, List.append_nil, Array.push_eq_append,
    Journal.displays_append]
  rfl

/-- **Each display handed over is counted**, and no other frame is. -/
theorem counted_pass (hfits : m.renderer.Fits m.core.display.pixels.size) (part : Part α) :
    ∃ shown, (m.pass part).journal.displays = m.journal.displays ++ shown ∧
      (m.pass part).framesShown = m.framesShown + shown.length := by
  by_cases hpart : part = .refresh
  · subst hpart
    rcases hdirty : m.core.display.dirty
    · refine ⟨[], ?_⟩
      rw [pass, refreshDisplay_of_clean hdirty, List.append_nil]
      exact ⟨rfl, rfl⟩
    · obtain ⟨renderer, journal, hrefresh, hdisplays⟩ := refreshDisplay_of_dirty hdirty hfits
      rw [pass, hrefresh]
      exact ⟨_, hdisplays, rfl⟩
  · obtain ⟨_, _, _, _, _, _, _, _, _, hfields⟩ := m.exists_pass_fields hpart
    have hcount : (m.pass part).framesShown = m.framesShown := by rw [hfields]
    exact ⟨[], (displays_pass hpart).trans (List.append_nil _).symm, hcount⟩

/-- What the mark on the display and the count of frames shown stand for. -/
structure Shown (m : Machine α) : Prop where
  /-- A display without the mark is the one that was handed over last. -/
  last : m.core.display.dirty = false →
    m.journal.displays.getLast? = some m.core.display.pixels
  /-- The frames shown are the displays handed over. -/
  count : m.framesShown = m.journal.displays.length

/-- **Every part keeps** what the mark and the count stand for. -/
theorem Shown.pass (h : m.Shown) (hfits : m.renderer.Fits m.core.display.pixels.size)
    (part : Part α) : (m.pass part).Shown := by
  obtain ⟨shown, hdisplays, hcount⟩ := m.counted_pass hfits part
  refine ⟨fun hclean ↦ ?_, ?_⟩
  · by_cases hpart : part = .refresh
    · subst hpart
      show m.refreshDisplay.2.journal.displays.getLast? =
        some m.refreshDisplay.2.core.display.pixels
      rcases hdirty : m.core.display.dirty
      · rw [refreshDisplay_of_clean hdirty]
        exact h.last hdirty
      · obtain ⟨renderer, journal, hrefresh, hlast⟩ := refreshDisplay_of_dirty hdirty hfits
        rw [hrefresh]
        dsimp only
        rw [hlast, List.getLast?_concat]
        rfl
    · have hredraws : ¬ part.Redraws m := fun hredraws ↦ by
        rw [hredraws.dirty] at hclean
        cases hclean
      rw [display_pass hredraws hpart] at hclean ⊢
      rw [displays_pass hpart, h.last hclean]
  · rw [hcount, hdisplays, List.length_append, h.count]

/-- **A frame that completes** leaves a display that is not due. -/
theorem dirty_of_runFrame {elapsed now : α} {events : List HostEvent}
    (h : m.runFrame elapsed events now = (.ok true, n)) : n.core.display.dirty = false := by
  obtain ⟨_, _, ticked, shown, -, -, -, hshown, rfl⟩ := exists_stages_of_runFrame h
  have hclean : shown.core.display.dirty = false := by
    rcases hdirty : ticked.core.display.dirty
    · rw [refreshDisplay_of_clean hdirty] at hshown
      cases hshown
      exact hdirty
    · unfold refreshDisplay at hshown
      rw [if_pos hdirty] at hshown
      unfold showDisplay at hshown
      dsimp only at hshown
      split at hshown
      · cases hshown
      · cases hshown
        rfl
  show (shown.setBuzzer _).core.display.dirty = false
  rw [setBuzzer_core, hclean]

/-! ### Reasons to show the display -/

/-- There is a reason to show the display after some parts: it was not shown yet, or one of the
parts redrew it and no display was handed over from then on. -/
def Due (m : Machine α) (parts : List (Part α)) : Prop :=
  .refresh ∉ parts ∨ ∃ before part since, parts = before ++ part :: since ∧
    part.Redraws (m.afterParts before) ∧
      (m.afterParts before).journal.displays = (m.afterParts parts).journal.displays

end Machine

/-- The places of a list with an item behind it are its own and that of the item. -/
theorem exists_split_concat {β : Type} {l : List β} {a : β} {P : List β → β → Prop} :
    (∃ before b since, l ++ [a] = before ++ b :: since ∧ P before b) ↔
      P l a ∨ ∃ before b since, l = before ++ b :: since ∧ P before b := by
  constructor
  · rintro ⟨before, b, since, heq, hP⟩
    rcases since.eq_nil_or_concat with rfl | ⟨since, last, rfl⟩
    · obtain ⟨rfl, hitem⟩ := List.append_inj' heq rfl
      obtain rfl := List.singleton_inj.1 hitem
      exact .inl hP
    · rw [List.concat_eq_append, ← List.cons_append, ← List.append_assoc] at heq
      obtain ⟨rfl, -⟩ := List.append_inj' heq rfl
      exact .inr ⟨before, b, since, rfl, hP⟩
  · rintro (hP | ⟨before, b, since, rfl, hP⟩)
    · exact ⟨l, a, [], rfl, hP⟩
    · exact ⟨before, b, since ++ [a], by simp, hP⟩

namespace Machine

variable [TimeNumber α] {m n : Machine α}

/-- A part that redraws is a reason. -/
theorem due_concat_of_redraws {parts : List (Part α)} {part : Part α}
    (h : part.Redraws (m.afterParts parts)) (hpart : part ≠ .refresh) :
    m.Due (parts ++ [part]) := by
  refine .inr ⟨parts, part, [], rfl, h, ?_⟩
  rw [afterParts_concat, displays_pass hpart]

/-- A part that neither redraws nor shows the display changes nothing about the reasons. -/
theorem due_concat_iff {parts : List (Part α)} {part : Part α}
    (h : ¬ part.Redraws (m.afterParts parts)) (hpart : part ≠ .refresh) :
    m.Due (parts ++ [part]) ↔ m.Due parts := by
  unfold Due
  rw [exists_split_concat, afterParts_concat, displays_pass hpart]
  simp [h, Ne.symm hpart]

/-- Where the display is due, showing it takes the reasons away. -/
theorem not_due_concat_refresh {parts : List (Part α)}
    (hdirty : (m.afterParts parts).core.display.dirty = true ↔ m.Due parts)
    (hfits : (m.afterParts parts).renderer.Fits
      (m.afterParts parts).core.display.pixels.size) : ¬ m.Due (parts ++ [.refresh]) := by
  unfold Due
  rw [exists_split_concat, afterParts_concat]
  rintro (hnone | ⟨hredraws, -⟩ | ⟨before, part, since, heq, hredraws, hsame⟩)
  · simp at hnone
  · cases hredraws
  · change _ = (m.afterParts parts).refreshDisplay.2.journal.displays at hsame
    rcases hclean : (m.afterParts parts).core.display.dirty
    · -- Nothing is handed over now, so the reason would be one before as well.
      rw [refreshDisplay_of_clean hclean] at hsame
      have hdue := hdirty.2 (.inr ⟨before, part, since, heq, hredraws, hsame⟩)
      rw [hclean] at hdue
      cases hdue
    · -- A display is handed over now, so there is one more than at the reason.
      obtain ⟨_, _, hrefresh, hdisplays⟩ := refreshDisplay_of_dirty hclean hfits
      have hprefix := (m.afterParts before).displays_afterParts (part :: since)
      rw [← afterParts_append, ← heq, hsame, hrefresh] at hprefix
      dsimp only at hprefix
      rw [hdisplays] at hprefix
      have hlength := hprefix.length_le
      rw [List.length_append, List.length_singleton] at hlength
      omega

/-- **The mark says whether there is a reason** to show the display. -/
theorem dirty_iff_due {speed : α} {keypadShared : Bool} {program : List UInt8}
    (h : Running speed keypadShared program m) (hdirty : m.core.display.dirty = true)
    (parts : List (Part α)) :
    (m.afterParts parts).core.display.dirty = true ↔ m.Due parts := by
  induction parts using List.reverseRecOn with
  | nil => exact ⟨fun _ ↦ .inl List.not_mem_nil, fun _ ↦ hdirty⟩
  | append_singleton parts part ih =>
    obtain ⟨_, hrunning⟩ := h.afterParts parts
    by_cases hpart : part = .refresh
    · subst hpart
      have hdue := not_due_concat_refresh ih hrunning.fits_display
      have hshown : (m.afterParts parts).refreshDisplay.2.core.display.dirty = false := by
        obtain ⟨_, _, _, _, hrefresh⟩ := exists_refreshDisplay hrunning.fits_display
        rw [hrefresh]
        rfl
      rw [afterParts_concat]
      change (m.afterParts parts).refreshDisplay.2.core.display.dirty = true ↔ _
      rw [hshown]
      exact ⟨fun hmark ↦ (Bool.false_ne_true hmark).elim, fun hreason ↦ absurd hreason hdue⟩
    · rw [afterParts_concat]
      by_cases hredraws : part.Redraws (m.afterParts parts)
      · exact ⟨fun _ ↦ due_concat_of_redraws hredraws hpart, fun _ ↦ hredraws.dirty⟩
      · rw [display_pass hredraws hpart, due_concat_iff hredraws hpart, ih]

section PowerOn

variable {renderer : Renderer} {inputs : Inputs α} {audio : Audio} {speed : Setting α}
  {debugger : Debugger} {seed : Setting Int} {keypadShared : Bool}

/-- A machine that was created shows nothing yet, and counts nothing. -/
theorem shown_create
    (h : create renderer inputs audio speed debugger seed keypadShared = .ok m) :
    m.core.display.dirty = true ∧ m.Shown := by
  have hdisplays : m.journal.displays = [] :=
    (journal_create h).displays_eq fun pixels hwrites ↦ by simp at hwrites
  obtain ⟨_, _, _, _, -, -, rfl⟩ := exists_created h
  refine ⟨rfl, fun hclean ↦ ?_, ?_⟩
  · cases hclean
  · rw [hdisplays]
    rfl

/-- **The display is coherent.** A run of operations is a run of their parts, one after another, so
its moments are those after parts in turn: between operations, between two instructions of a frame,
and where a frame broke off. At every moment of every run from power-on,

* a display that is not marked as changed is the one that was handed to the renderer last;
* the frames shown are counted as often as a display was handed over;
* showing the display succeeds, and hands it over exactly if this is the first time, or if since the
  display was last handed over an instruction redrew it or the machine returned to power-on;
* a frame that completes leaves a display that is not marked. -/
theorem display_coherent
    (h : create renderer inputs audio speed debugger seed keypadShared = .ok m) :
    (∀ operations, m.afterAll operations = m.afterParts (m.partsAll operations)) ∧
    ∀ parts : List (Part α),
      ((m.afterParts parts).core.display.dirty = false →
        (m.afterParts parts).journal.displays.getLast? =
          some (m.afterParts parts).core.display.pixels) ∧
      (m.afterParts parts).framesShown = (m.afterParts parts).journal.displays.length ∧
      (m.afterParts parts).refreshDisplay.1 = .ok () ∧
      (m.Due parts → (m.afterParts parts).refreshDisplay.2.journal.displays =
        (m.afterParts parts).journal.displays ++ [(m.afterParts parts).core.display.pixels]) ∧
      (¬ m.Due parts → (m.afterParts parts).refreshDisplay.2.journal.displays =
        (m.afterParts parts).journal.displays) ∧
      ∀ elapsed events now n,
        (m.afterParts parts).runFrame elapsed events now = (.ok true, n) →
          n.core.display.dirty = false := by
  obtain ⟨value, -, hrunning⟩ := running_create h
  obtain ⟨hdirty, hshown⟩ := shown_create h
  refine ⟨m.afterAll_eq, fun parts ↦ ?_⟩
  obtain ⟨_, hrun⟩ := hrunning.afterParts parts
  obtain ⟨-, hkept⟩ := afterParts_invariant
    (P := fun n ↦ (∃ program, Running value keypadShared program n) ∧ n.Shown)
    (fun n part ⟨⟨_, hn⟩, hs⟩ ↦ ⟨hn.pass part, hs.pass hn.fits_display part⟩)
    ⟨⟨[], hrunning⟩, hshown⟩ parts
  have hdue := dirty_iff_due hrunning hdirty parts
  refine ⟨hkept.last, hkept.count, ?_, fun hreason ↦ ?_, fun hnone ↦ ?_, ?_⟩
  · obtain ⟨_, _, _, _, hrefresh⟩ := exists_refreshDisplay hrun.fits_display
    rw [hrefresh]
  · obtain ⟨_, _, hrefresh, hdisplays⟩ :=
      refreshDisplay_of_dirty (hdue.2 hreason) hrun.fits_display
    rw [hrefresh]
    exact hdisplays
  · rw [refreshDisplay_of_clean (Bool.eq_false_iff.2 fun hmark ↦ hnone (hdue.1 hmark))]
  · intro elapsed events now n hframe
    exact dirty_of_runFrame hframe

/-- A program that clears the display and then faults is loaded, the display is shown, and a frame
runs the program. -/
def clearingOperations : List (Operation Scalar) :=
  [.load [0x00, 0xE0, 0x00, 0x00], .refresh, .frame (.whole 1) [] (.whole 0)]

/-- The frame breaks off behind the instruction that clears the display, with one display handed
over before it. The next refresh hands over the cleared one, and the refresh after that none. -/
theorem display_coherent_clearing :
    ∃ m : Machine Scalar, create (Renderer.fresh .headless 1 "") .script Audio.silent
        (.given (.whole 700)) .absent (.given 1) true = .ok m ∧
      ((m.afterAll (clearingOperations.take 2)).runFrame (.whole 1) [] (.whole 0)).1 =
        .error (.fault (.unknownOpcode 0 0x202)) ∧
      (m.afterAll clearingOperations).journal.displays.length = 1 ∧
      (m.afterAll (clearingOperations ++ [.refresh])).journal.displays.length = 2 ∧
      (m.afterAll (clearingOperations ++ [.refresh, .refresh])).journal.displays.length = 2 := by
  obtain ⟨m, hm⟩ := exists_create_scripted
  obtain ⟨value, -, hrunning⟩ := running_create hm
  obtain ⟨hdirty, -⟩ := shown_create hm
  obtain ⟨hparts, hcoherent⟩ := display_coherent hm
  -- What the run reports and shows up to the frame, and the marks that it leaves.
  have hrun : (create (α := Scalar) (Renderer.fresh .headless 1 "") .script Audio.silent
      (.given (.whole 700)) .absent (.given 1) true).toOption.map (fun m ↦
        (((m.afterAll (clearingOperations.take 2)).runFrame (.whole 1) [] (.whole 0)).1,
          (m.afterAll clearingOperations).journal.displays.length,
          (m.afterAll clearingOperations).core.display.dirty,
          (m.afterAll (clearingOperations ++ [.refresh])).core.display.dirty)) =
      some (.error (.fault (.unknownOpcode 0 0x202)), 1, true, false) := by
    decide +kernel
  rw [hm] at hrun
  simp only [Except.toOption, Option.map_some, Option.some.injEq, Prod.mk.injEq] at hrun
  obtain ⟨hresult, hfirst, hmarked, hclean⟩ := hrun
  have hmark (operations : List (Operation Scalar)) :
      (m.afterAll operations).core.display.dirty = true ↔ m.Due (m.partsAll operations) := by
    rw [hparts]
    exact dirty_iff_due hrunning hdirty _
  have hnext (operations : List (Operation Scalar))
      (hmarked : (m.afterAll operations).core.display.dirty = true) :
      (m.afterAll (operations ++ [.refresh])).journal.displays.length =
        (m.afterAll operations).journal.displays.length + 1 := by
    obtain ⟨-, -, -, hdue, -⟩ := hcoherent (m.partsAll operations)
    have hshown := congrArg List.length (hdue ((hmark operations).1 hmarked))
    rw [← hparts, List.length_append] at hshown
    rwa [afterAll, List.foldl_concat]
  have hnone (operations : List (Operation Scalar))
      (hclean : (m.afterAll operations).core.display.dirty = false) :
      (m.afterAll (operations ++ [.refresh])).journal.displays =
        (m.afterAll operations).journal.displays := by
    obtain ⟨-, -, -, -, hkept, -⟩ := hcoherent (m.partsAll operations)
    have hsame := hkept ((hmark operations).not.1 (Bool.eq_false_iff.1 hclean))
    rw [← hparts] at hsame
    rwa [afterAll, List.foldl_concat]
  have hsecond := hnext _ hmarked
  rw [hfirst] at hsecond
  exact ⟨m, hm, hresult, hfirst, hsecond, (congrArg List.length (hnone _ hclean)).trans hsecond⟩

end PowerOn

end Machine

end ChipEight
