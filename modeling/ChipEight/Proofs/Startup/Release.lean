import ChipEight.Proofs.Startup.Shutdown

/-!
# The release of the display

A display is released if every call that brings one up is followed by a call that shuts it down
(`Session.Released`). A session that cannot have its program or its devices makes no call, and one
whose renderer is up closes, which releases the display. What is left is a renderer that fails after
it has brought its display up: nobody has it then, so nobody shuts it down. `released_iff` says that
this is the only case in which a display stays, `strands_iff` which settings lead there, and
`not_released_of_palette` that some do: a window is up before the colours for it are read.
-/

namespace ChipEight

variable {α σ : Type}

namespace Renderer

/-- A renderer brings up the display of its own host, and none without a host. -/
theorem opens_of_create (kind : HostKind) (settings : RendererSettings) (host : TerminalHost) :
    ∀ c ∈ (create kind settings host).2, ∀ opened, c.opens? = some opened →
      opened = kind ∧ kind ≠ .headless := by
  cases kind with
  | headless => simp [create]
  | window =>
    simp only [create, openWindow]
    split <;> simp [sizedWindow, HostCall.opens?]
  | terminal =>
    simp only [create, openTerminal]
    split
    · simp
    · split <;> simp [padFor, HostCall.opens?]

theorem opens_of_closing (r : Renderer) : ∀ c ∈ r.closing, c.opens? = none := by
  unfold closing
  rcases r.device with - | w | t
  · simp
  · simp [HostCall.opens?]
  · dsimp only
    split <;> simp [HostCall.opens?]

/-- What keeps a renderer from coming up although its display is up by then: for a window, a width
left blank and colours that cannot be read; for a terminal, the wish for a cursor that it denies, or
no wish where it needs one. -/
def FailsOpen (settings : RendererSettings) (host : TerminalHost) : HostKind → Prop
  | .headless => False
  | .window => settings.scale = .blank ∨
    ∃ failure, settings.palette.value? .blankText >>= Palette.parse = .error failure
  | .terminal => (∃ scale, terminalScale settings.scale = .ok scale) ∧
    ∃ failure, host.cursorFailure? settings.cursorMode = some failure

theorem failsOpen_iff {kind : HostKind} {settings : RendererSettings} {host : TerminalHost} :
    ((∃ failure, (create kind settings host).1 = .error failure) ∧
      ∃ c ∈ (create kind settings host).2, c.opens? ≠ none) ↔ FailsOpen settings host kind := by
  cases kind with
  | headless => simp [create, FailsOpen]
  | window =>
    simp only [create, openWindow, FailsOpen]
    split
    · rename_i failure hscale
      simp [HostCall.opens?, (Setting.valueOr_eq_error_iff.1 hscale).1]
    · rename_i scale hscale
      have hblank : settings.scale ≠ .blank := fun hblank ↦ by
        rw [Setting.valueOr_eq_error_iff.2 ⟨hblank, rfl⟩] at hscale
        cases hscale
      simp only [sizedWindow, hblank, false_or]
      refine Iff.trans (and_iff_left ⟨_, List.mem_cons_self, by simp [HostCall.opens?]⟩) ?_
      rcases settings.palette.value? .blankText with failure | palette?
      · simp [bind, Except.bind]
      · rcases hpalette : Palette.parse palette? with failure | palette
        · simp [hpalette, bind, Except.bind]
        · simp [hpalette, bind, Except.bind, pure, Except.pure]
  | terminal =>
    simp only [create, openTerminal, FailsOpen]
    split
    · rename_i failure hscale
      simp [hscale]
    · rename_i scale hscale
      split
      · rename_i failure hrefuses
        simp [hscale, hrefuses, HostCall.opens?]
      · rename_i hgrants
        simp [hscale, hgrants]

/-- What a terminal denies is reckoned with when a renderer is brought up. -/
theorem bringUp_ofTerminal {α : Type} (j : Journal α) (kind : HostKind)
    (settings : RendererSettings) (host : TerminalHost) :
    j.bringUp (.ofTerminal host) (create kind settings host) =
      ((create kind settings host).1, j ++ Journal.ofCalls (create kind settings host).2) := by
  cases kind with
  | headless => rfl
  | window =>
    refine Journal.attempt_of_granted j (Denial.granted_ofTerminal fun mode hcursor ↦ ?_)
    simp only [create, openWindow] at hcursor
    split at hcursor <;> simp [sizedWindow] at hcursor
  | terminal =>
    simp only [create, openTerminal]
    split
    · rfl
    · split
      · rename_i hrefuses
        simp [Journal.bringUp, Journal.attempt, Journal.ofCalls, Journal.extend, Denial.entry?,
          Denial.ofTerminal, hrefuses]
        rfl
      · rename_i hgrants
        refine Journal.attempt_of_granted j (Denial.granted_ofTerminal fun mode hcursor ↦ ?_)
        simp only [padFor] at hcursor
        simp at hcursor
        rw [hcursor, hgrants]

end Renderer

namespace Session

/-! ### Released displays -/

/-- Every call that brings a display up is followed by one that shuts it down. -/
def Released (calls : List HostCall) : Prop :=
  ∀ before c after kind, calls = before ++ c :: after → c.opens? = some kind →
    ∃ d ∈ after, d.closes? = some kind

theorem released_of_opens {calls : List HostCall} (h : ∀ c ∈ calls, c.opens? = none) :
    Released calls := by
  rintro before c after kind rfl hc
  rw [h c (by simp)] at hc
  cases hc

/-- Calls that shut no display down do not release one that they bring up. -/
theorem not_released {calls : List HostCall} (hcloses : ∀ c ∈ calls, c.closes? = none)
    {c : HostCall} (hmem : c ∈ calls) (hopens : c.opens? ≠ none) : ¬ Released calls := by
  intro hreleased
  obtain ⟨kind, hkind⟩ := Option.ne_none_iff_exists'.1 hopens
  obtain ⟨before, after, rfl⟩ := List.append_of_mem hmem
  obtain ⟨d, hd, hclose⟩ := hreleased before c after kind rfl hkind
  rw [hcloses d (by simp [hd])] at hclose
  cases hclose

/-- Displays are released by calls at the end that shut all of them down and bring up none. -/
theorem released_append {calls last : List HostCall}
    (hcloses : ∀ c ∈ calls, ∀ kind, c.opens? = some kind → ∃ d ∈ last, d.closes? = some kind)
    (hopens : ∀ c ∈ last, c.opens? = none) : Released (calls ++ last) := by
  intro before c after kind hsplit hc
  have hlast : c ∉ last := fun hmem ↦ by
    rw [hopens c hmem] at hc
    cases hc
  obtain ⟨rest, -, hrest⟩ | ⟨rest, hcalls, hrest⟩ := List.append_eq_append_iff.1 hsplit
  · exact absurd (show c ∈ last by simp [hrest]) hlast
  · rcases rest with - | ⟨first, rest⟩
    · obtain rfl : c :: after = last := hrest
      exact absurd List.mem_cons_self hlast
    · obtain ⟨rfl, rfl⟩ := List.cons_eq_cons.1 hrest
      obtain ⟨d, hd, hclose⟩ := hcloses c (by simp [hcalls]) kind hc
      exact ⟨d, List.mem_append_right _ hd, hclose⟩

/-! ### Sessions -/

variable {denials : Denials} {denies : Denial} {s : Settings α}
  {program? : Option (List UInt8)} {host : HostFacts}

/-- The renderer of a session fails after it has brought its display up. -/
def Strands (denies : Denial) (s : Settings α) (program? : Option (List UInt8))
    (host : HostFacts) : Prop :=
  (∃ failure, (enter denies s program? host).1 = .error failure) ∧
    ∃ c ∈ (enter denies s program? host).2.calls, c.opens? ≠ none

/-- **Which sessions leave a display** on a host whose terminal alone may deny a call: those that
have all they require, and whose renderer cannot come up although its display is up. -/
theorem strands_iff :
    Strands (.ofTerminal host.terminal) s program? host ↔
      (∃ level, s.level = .ok level) ∧
        ∃ program choice, requirements s program? host = .ok (program, choice) ∧
          Renderer.FailsOpen (rendererSettings s) host.terminal choice.host := by
  unfold Strands
  obtain ⟨failure, hlevel, henter⟩ | ⟨failure, hrequired, henter⟩ |
    ⟨program, choice, made, journal, hlevel, hrequired, hmade, henter⟩ :=
      enter_cases (.ofTerminal host.terminal) s program? host
  · rw [henter, hlevel]
    simp
  · rw [henter, hrequired]
    simp [Journal.calls]
  · rw [Renderer.bringUp_ofTerminal] at hmade
    obtain ⟨rfl, rfl⟩ := Prod.mk.inj hmade
    have hcalls : (#[.log .info banner] ++ Journal.ofCalls (Renderer.create choice.host
        (rendererSettings s) host.terminal).2 : Journal α).calls =
          (Renderer.create choice.host (rendererSettings s) host.terminal).2 := by
      rw [Journal.calls_append, Journal.calls_ofCalls]
      rfl
    rw [henter, hcalls, hrequired]
    constructor
    · rintro ⟨⟨failure, hfailed⟩, hopens⟩
      refine ⟨hlevel, program, choice, rfl, Renderer.failsOpen_iff.1 ⟨?_, hopens⟩⟩
      rcases hcreate : (Renderer.create choice.host (rendererSettings s) host.terminal).1 with
        failure | renderer
      · exact ⟨failure, rfl⟩
      · rw [hcreate] at hfailed
        cases hfailed
    · rintro ⟨-, _, _, hsame, hfails⟩
      cases hsame
      obtain ⟨⟨failure, hfailed⟩, hopens⟩ := Renderer.failsOpen_iff.2 hfails
      exact ⟨⟨failure, by rw [hfailed]; rfl⟩, hopens⟩

/-- What the calls that bring a renderer up have in common is true of the calls that are made. -/
theorem calls_bringUp (denies : Denial) {P : HostCall → Prop}
    {device : Except Failure Renderer × List HostCall} (h : ∀ c ∈ device.2, P c) :
    ∀ c ∈ (Journal.bringUp denies (#[.log .info banner] : Journal α) device).2.calls, P c := by
  obtain ⟨added, hadded, hP⟩ := Journal.Adds.bringUp (#[.log .info banner] : Journal α) denies
    (P := fun entry ↦ ∃ c, P c ∧ entry = .call c) fun c hc ↦ ⟨c, h c hc, rfl⟩
  intro c hc
  rw [hadded, Journal.calls_append] at hc
  obtain hc | hc := List.mem_append.1 hc
  · cases hc
  · obtain ⟨d, hd, hcall⟩ := hP _ (Journal.mem_calls.1 hc)
    cases hcall
    exact hd

/-- The program and the devices must both be there. -/
theorem exists_requirements_eq_error (h : program? = none ∨
      ∃ failure, DeviceChoice.select (.ofSetting s.renderer) s.mute host.libraries = .error failure) :
    ∃ failure, requirements s program? host = .error failure := by
  unfold requirements
  rcases program? with - | program
  · exact ⟨_, rfl⟩
  · obtain hnone | ⟨failure, hselect⟩ := h
    · cases hnone
    · rw [hselect]
      exact ⟨failure, rfl⟩

variable [TimeNumber α] {clock : Clock σ α} {rounds : Nat} {state : σ}
  {polls : List (List HostEvent)}

/-- A session that closes releases its display. -/
theorem released_of_entered {program : List UInt8} {choice : DeviceChoice} {renderer : Renderer}
    {opened : Journal α}
    (hentered : enter denials.running s program? host = (.ok (program, choice, renderer), opened))
    (hending : denials.ending.CursorOnly) :
    Released (runAgainst denials clock rounds state polls s program? host).2.calls := by
  rcases hbody : body denials.running clock rounds state polls s program choice renderer
    opened with ⟨result, stage⟩
  obtain ⟨hkind, hopened⟩ := enter_eq_ok hentered
  obtain ⟨rfl, -, -, added, hadded, hwork⟩ := body_spec stage hbody
  rw [runAgainst_eq stage hentered hbody, close_eq stage hending]
  unfold shutDown
  rw [Journal.calls_append, calls_closingEntries]
  refine released_append (fun c hc kind hopens ↦ ?_) fun c hc ↦ ?_
  · rw [hadded, hopened, Journal.calls_append, Journal.calls_append, Journal.calls_ofCalls] at hc
    obtain (hc | hc) | hc := (List.mem_append.1 hc).imp_left List.mem_append.1
    · cases hc
    · obtain ⟨rfl, hheadless⟩ := Renderer.opens_of_create _ _ _ c hc kind hopens
      obtain ⟨before, last, hlast, hcloses, -⟩ :=
        Renderer.closes_of_closing (r := stage.renderer) (hkind ▸ hheadless)
      refine ⟨last, List.mem_append_right _ ?_, hcloses.trans (congrArg some hkind)⟩
      rw [hlast]
      exact List.mem_append_right _ List.mem_cons_self
    · rw [(hwork _ (Journal.mem_calls.1 hc)).1] at hopens
      cases hopens
  · obtain hc | hc := List.mem_append.1 hc
    · rcases haudio : stage.audio? with - | audio
      · rw [haudio] at hc
        cases hc
      · rw [haudio] at hc
        exact (audio.isUse_of_closing c hc).1
    · exact stage.renderer.opens_of_closing c hc

/-- A session that does not close has made the calls of its entry alone. -/
theorem calls_of_enter_error {failure : Failure} {journal : Journal α}
    (henter : enter denials.running s program? host = (.error failure, journal)) :
    (runAgainst denials clock rounds state polls s program? host).2.calls = journal.calls := by
  unfold runAgainst
  rw [henter]

/-- A session that does not close leaves a display exactly if it brought one up. -/
theorem released_iff_of_enter_error {failure : Failure} {journal : Journal α}
    (henter : enter denials.running s program? host = (.error failure, journal))
    (hcloses : ∀ c ∈ journal.calls, c.closes? = none) :
    Released (runAgainst denials clock rounds state polls s program? host).2.calls ↔
      ¬ Strands denials.running s program? host := by
  rw [calls_of_enter_error henter, Strands, henter]
  constructor
  · rintro hreleased ⟨-, c, hc, hopens⟩
    exact not_released hcloses hc hopens hreleased
  · intro hnone
    refine released_of_opens fun c hc ↦ ?_
    by_contra hopens
    exact hnone ⟨⟨failure, rfl⟩, c, hc, hopens⟩

/-- A session without its program or without devices makes no call. -/
theorem calls_eq_nil_of_absent (h : program? = none ∨
      ∃ failure, DeviceChoice.select (.ofSetting s.renderer) s.mute host.libraries = .error failure) :
    (runAgainst denials clock rounds state polls s program? host).2.calls = [] := by
  obtain ⟨_, -, henter⟩ | ⟨_, -, henter⟩ | ⟨_, _, _, _, -, hrequired, -⟩ :=
    enter_cases denials.running s program? host
  · exact calls_of_enter_error henter
  · exact calls_of_enter_error henter
  · obtain ⟨failure, hfailed⟩ := exists_requirements_eq_error h
    rw [hrequired] at hfailed
    cases hfailed

/-- A session leaves a display exactly if its renderer fails after it has brought one up. -/
theorem released_iff_not_strands (hending : denials.ending.CursorOnly) :
    Released (runAgainst denials clock rounds state polls s program? host).2.calls ↔
      ¬ Strands denials.running s program? host := by
  obtain ⟨_, -, henter⟩ | ⟨_, -, henter⟩ | ⟨_, choice, made, journal, -, -, hmade, henter⟩ :=
    enter_cases denials.running s program? host
  · exact released_iff_of_enter_error henter fun c hc ↦ by cases hc
  · exact released_iff_of_enter_error henter fun c hc ↦ by cases hc
  · rcases made with failure | renderer
    · refine released_iff_of_enter_error henter fun c hc ↦ ?_
      have hcloses := calls_bringUp (α := α) denials.running
        (Renderer.closes_of_create choice.host (rendererSettings s) host.terminal)
      rw [hmade] at hcloses
      exact hcloses c hc
    · refine iff_of_true (released_of_entered henter hending) ?_
      rintro ⟨⟨failure, hfailed⟩, -⟩
      rw [henter] at hfailed
      cases hfailed

/-- **What becomes of the display.** A session without its program or without devices makes no call
to the host. Any other one leaves every display that it brings up released, unless its renderer
fails after it has brought the display up. The host may deny any call up to the shutdown, and in the
shutdown the cursor of a terminal. Where it denies no call up to then but the one of its terminal, a
display stays exactly if the log has a level, the program and the devices are there, and the
renderer cannot come up behind the call that brings its display up. -/
theorem released_iff (denials : Denials) (clock : Clock σ α) (rounds : Nat) (state : σ)
    (polls : List (List HostEvent)) (s : Settings α) (program? : Option (List UInt8))
    (host : HostFacts) (hending : denials.ending.CursorOnly) :
    let calls := (runAgainst denials clock rounds state polls s program? host).2.calls
    ((program? = none ∨ ∃ failure,
      DeviceChoice.select (.ofSetting s.renderer) s.mute host.libraries = .error failure) →
        calls = []) ∧
    (Released calls ↔ ¬ Strands denials.running s program? host) ∧
    (denials.running = .ofTerminal host.terminal →
      (Released calls ↔ ¬ ((∃ level, s.level = .ok level) ∧
        ∃ program choice, requirements s program? host = .ok (program, choice) ∧
          Renderer.FailsOpen (rendererSettings s) host.terminal choice.host))) := by
  refine ⟨calls_eq_nil_of_absent, released_iff_not_strands hending, fun hterminal ↦ ?_⟩
  rw [released_iff_not_strands hending, hterminal, strands_iff]

/-- A session that fails at power-on, on a terminal that cannot show its cursor, releases the
terminal. -/
theorem released_iff_stalled :
    (Denials.ofTerminal cursorless.terminal).ending.CursorOnly ∧
      Released (run Metronome.clock 1 ⟨0, 1⟩ [] stalled (some [0x12, 0x00]) cursorless).2.calls := by
  have hending : (Denials.ofTerminal cursorless.terminal).ending.CursorOnly :=
    Denial.cursorOnly_refusal rfl
  obtain ⟨-, -, hreleased⟩ := released_iff (.ofTerminal cursorless.terminal) Metronome.clock 1
    (⟨0, 1⟩ : Metronome ℚ) [] stalled (some [0x12, 0x00]) cursorless hending
  refine ⟨hending, (hreleased rfl).2 ?_⟩
  rintro ⟨-, program, choice, hrequired, hfails⟩
  obtain ⟨-, rfl⟩ : [0x12, 0x00] = program ∧ DeviceChoice.mk .terminal .bell = choice :=
    Prod.mk.inj (Except.ok.inj hrequired)
  obtain ⟨failure, hrefused⟩ := hfails.2
  cases hrefused

/-- A host with windows, and no terminal. -/
def windowed : HostFacts :=
  ⟨⟨true, false⟩, ⟨[], false, TerminalHost.refusal fun _ ↦ true⟩⟩

/-- Settings with a word for a colour in place of its number. -/
def worded : Settings ℚ where
  clockSpeed := .absent
  renderer := none
  scale := .absent
  mute := none
  keymap := .absent
  seed := .absent
  cursorMode := .absent
  palette := .given "red"
  logLevel := .absent
  debug := false

/-- The window of such a session stays: it is up when its colours turn out to be of no use. -/
theorem not_released_of_palette :
    ¬ Released (run Metronome.clock 1 ⟨0, 1⟩ [] worded (some [0x12, 0x00]) windowed).2.calls := by
  have henter : enter (Denials.ofTerminal windowed.terminal).running worded (some [0x12, 0x00])
      windowed = (.error (.palette .wrongLength), #[.log .info banner] ++ Journal.ofCalls
        [.openWindow, .caption Renderer.programName, .sizeWindow 512 256]) := rfl
  have hcalls : (run Metronome.clock 1 (⟨0, 1⟩ : Metronome ℚ) [] worded (some [0x12, 0x00])
      windowed).2.calls = [.openWindow, .caption Renderer.programName, .sizeWindow 512 256] :=
    calls_of_enter_error henter
  rw [hcalls]
  exact not_released (by simp [HostCall.closes?]) List.mem_cons_self (by simp [HostCall.opens?])

end Session

end ChipEight
