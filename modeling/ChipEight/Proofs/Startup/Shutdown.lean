import ChipEight.Proofs.Host.Denial
import ChipEight.Proofs.Machine.HostUse
import ChipEight.Proofs.TimeNumber.Exact
import ChipEight.Startup.Session

/-!
# The shutdown of a session

Once the renderer of a session is up, the session closes on every path: the devices that are up are
shut down in the order audio, inputs, renderer, each of them once, and nothing follows
(`shutdown_in_order`). The paths differ in the devices that are up and in the result of the body.
Neither changes the way the session closes, so no path through the machine is followed here: all
that is needed of the body is what it has brought up, and that whatever it records uses the host and
shuts nothing down (`body_spec`).

The host may deny any call of the body. Of the calls of the shutdown it may deny only a cursor,
which the session passes over; the result of the body then stays the result of the session.
-/

namespace ChipEight

variable {α σ : Type}

namespace Renderer

/-- The host that a renderer shows its display on. -/
def kind (r : Renderer) : HostKind :=
  match r.device with
  | .headless => .headless
  | .window _ => .window
  | .terminal _ => .terminal

theorem kind_of_create {kind : HostKind} {settings : RendererSettings} {host : TerminalHost}
    {r : Renderer} (h : (create kind settings host).1 = .ok r) : r.kind = kind := by
  cases kind with
  | headless =>
    cases h
    rfl
  | window =>
    simp only [create, openWindow] at h
    split at h
    · cases h
    · simp only [sizedWindow] at h
      rcases hvalue : settings.palette.value? .blankText with failure | palette?
      · rw [hvalue] at h
        cases h
      · rcases hpalette : Palette.parse palette? with failure | palette
        · simp only [hvalue, hpalette, bind, Except.bind] at h
          cases h
        · simp only [hvalue, hpalette, bind, Except.bind] at h
          cases h
          rfl
  | terminal =>
    simp only [create, openTerminal] at h
    split at h
    · cases h
    · split at h
      · cases h
      · cases h
        rfl

/-- Bringing a display up shuts none down. -/
theorem closes_of_create (kind : HostKind) (settings : RendererSettings) (host : TerminalHost) :
    ∀ c ∈ (create kind settings host).2, c.closes? = none := by
  cases kind with
  | headless => simp [create]
  | window =>
    simp only [create, openWindow]
    split <;> simp [sizedWindow, HostCall.closes?]
  | terminal =>
    simp only [create, openTerminal]
    split
    · simp
    · split <;> simp [padFor, HostCall.closes?]

/-- The last call of a shutdown shuts the display down, and no other one does. -/
theorem closes_of_closing {r : Renderer} (h : r.kind ≠ .headless) :
    ∃ before c, r.closing = before ++ [c] ∧ c.closes? = some r.kind ∧
      ∀ d ∈ before, d.closes? = none := by
  unfold kind at h
  unfold closing kind
  rcases hdevice : r.device with - | w | t
  · rw [hdevice] at h
    exact absurd rfl h
  · exact ⟨[], _, rfl, rfl, by simp⟩
  · refine ⟨_, _, rfl, rfl, ?_⟩
    split <;> simp [HostCall.closes?]

/-- A shutdown asks for no cursor but the one that shows. -/
theorem cursor_of_closing (r : Renderer) (mode : Setting Int) (h : .cursor mode ∈ r.closing) :
    mode = .given 1 := by
  unfold closing at h
  split at h
  · cases h
  · simp at h
  · split at h
    · simp at h
    · simpa using h

end Renderer

theorem Audio.cursor_not_mem_closing (a : Audio) (mode : Setting Int) :
    .cursor mode ∉ a.closing := by
  unfold closing
  split <;> simp

namespace Session

/-! ### What a session shuts down -/

/-- The devices of a stage that are up, in the order in which they are shut down. -/
def devicesUp (stage : Stage α) : List DeviceRole :=
  (stage.audio?.map fun _ ↦ .audio).toList ++ (stage.inputs?.map fun _ ↦ .inputs).toList ++
    [.renderer]

/-- The calls that shut a stage down. -/
def closingCalls (stage : Stage α) : List HostCall :=
  (stage.audio?.map Audio.closing).getD [] ++ stage.renderer.closing

/-- What is recorded when the audio of a stage is shut down, if it is up. -/
def closingAudio (stage : Stage α) : Journal α :=
  (stage.audio?.map Audio.shutdown).getD #[]

/-- What is recorded when the inputs of a stage are shut down, if they are up. -/
def closingInputs (stage : Stage α) : Journal α :=
  (stage.inputs?.map fun inputs ↦ inputs.shutdown.2).getD #[]

/-- What is recorded when a stage is shut down. -/
def closingEntries (stage : Stage α) : Journal α :=
  closingAudio stage ++ closingInputs stage ++ stage.renderer.shutdown

theorem shutdowns_closing (role : DeviceRole) (calls : List HostCall) :
    (#[.shutdown role] ++ Journal.ofCalls calls : Journal α).shutdowns = [role] := by
  rw [Journal.shutdowns_append, Journal.shutdowns_ofCalls]
  rfl

theorem calls_closing (role : DeviceRole) (calls : List HostCall) :
    (#[.shutdown role] ++ Journal.ofCalls calls : Journal α).calls = calls := by
  rw [Journal.calls_append, Journal.calls_ofCalls]
  rfl

variable (stage : Stage α)

theorem shutdowns_closingEntries : (closingEntries stage).shutdowns = devicesUp stage := by
  unfold closingEntries closingAudio closingInputs devicesUp Renderer.shutdown
  rw [Journal.shutdowns_append, Journal.shutdowns_append, shutdowns_closing]
  rcases stage.audio? with - | audio <;> rcases stage.inputs? with - | inputs <;>
    simp [Audio.shutdown, shutdowns_closing] <;> rfl

theorem calls_closingEntries : (closingEntries stage).calls = closingCalls stage := by
  unfold closingEntries closingAudio closingInputs closingCalls Renderer.shutdown
  rw [Journal.calls_append, Journal.calls_append, calls_closing]
  rcases stage.audio? with - | audio <;> rcases stage.inputs? with - | inputs <;>
    simp [Audio.shutdown, calls_closing] <;> rfl

/-- The stage that is left of one when it is shut down. -/
def shutDown (stage : Stage α) : Stage α :=
  { stage with
    inputs? := stage.inputs?.map Inputs.stop
    journal := stage.journal ++ closingEntries stage }

theorem extend_of_granted {denies : Denial} {entries : Journal α}
    (h : Journal.Granted denies entries) :
    stage.extend denies entries = (none, { stage with journal := stage.journal ++ entries }) := by
  unfold Stage.extend
  rw [Journal.extend_of_granted _ fun moment entry hentry ↦
    h moment entry (Array.mem_toList_iff.1 hentry)]

theorem closeAudio_of_granted {denies : Denial} (h : Journal.Granted denies (closingAudio stage)) :
    stage.closeAudio denies =
      (none, { stage with journal := stage.journal ++ closingAudio stage }) := by
  rcases stage with ⟨renderer, inputs?, - | audio, journal⟩
  · exact congrArg (fun j ↦ (none, (⟨renderer, inputs?, none, j⟩ : Stage α)))
      Array.append_empty.symm
  · exact extend_of_granted _ h

theorem closeInputs_of_granted {denies : Denial}
    (h : Journal.Granted denies (closingInputs stage)) :
    stage.closeInputs denies = (none, { stage with
      inputs? := stage.inputs?.map Inputs.stop
      journal := stage.journal ++ closingInputs stage }) := by
  rcases stage with ⟨renderer, - | inputs, audio?, journal⟩
  · exact congrArg (fun j ↦ (none, (⟨renderer, none, audio?, j⟩ : Stage α)))
      Array.append_empty.symm
  · exact extend_of_granted _ h

/-- **The shutdown** of a stage that is granted all calls for it shuts everything down. -/
theorem shutdown_of_granted {denies : Denial}
    (h : Journal.Granted denies (closingEntries stage)) :
    stage.shutdown denies = (none, shutDown stage) := by
  obtain ⟨haudio, hrenderer⟩ := Journal.granted_append.1 h
  obtain ⟨haudio, hinputs⟩ := Journal.granted_append.1 haudio
  unfold Stage.shutdown
  rw [closeAudio_of_granted stage haudio]
  dsimp only
  rw [closeInputs_of_granted { stage with journal := stage.journal ++ closingAudio stage } hinputs]
  refine (extend_of_granted _ hrenderer).trans ?_
  unfold shutDown closingEntries
  rw [← Array.append_assoc, ← Array.append_assoc]
  rfl

/-- The only cursor that a shutdown asks for is the one that shows. -/
theorem cursor_of_closingEntries (mode : Setting Int)
    (h : .call (.cursor mode) ∈ closingEntries stage) : mode = .given 1 := by
  rw [← Journal.mem_calls, calls_closingEntries] at h
  obtain haudio | hrenderer := List.mem_append.1 h
  · rcases haudio? : stage.audio? with - | audio
    · rw [haudio?] at haudio
      cases haudio
    · rw [haudio?] at haudio
      exact absurd haudio (audio.cursor_not_mem_closing mode)
  · exact stage.renderer.cursor_of_closing mode hrenderer

/-- On a host that denies no more than a cursor, a session closes with the result it has. -/
theorem close_eq {β : Type} {denies : Denial} (h : denies.CursorOnly) (failed : Failure → β)
    (result : β) : stage.close denies failed result = (result, shutDown stage) := by
  unfold Stage.close
  rw [shutdown_of_granted stage (h.granted_sparingCursor (cursor_of_closingEntries stage))]

/-! ### The body -/

variable [TimeNumber α] {denies : Denial} {s : Settings α} {host : HostFacts}
  {program : List UInt8} {choice : DeviceChoice} {renderer : Renderer} {opened : Journal α}

/-- The three ways in which the inputs and the audio come up, or do not. -/
theorem equip_cases (denies : Denial) (s : Settings α) (choice : DeviceChoice)
    (renderer : Renderer) (opened : Journal α) :
    (∃ failure, Inputs.create (α := α) choice.host s.keymap = .error failure ∧
      equip denies s choice renderer opened =
        (.error failure, ⟨renderer, none, none, opened⟩)) ∨
    ∃ inputs, Inputs.create choice.host s.keymap = .ok inputs ∧
      ((∃ failure journal,
        opened.bringUp denies (Audio.create (α := α) choice.audio) = (.error failure, journal) ∧
        equip denies s choice renderer opened =
          (.error failure, ⟨renderer, some inputs, none, journal⟩)) ∨
      ∃ audio journal,
        opened.bringUp denies (Audio.create (α := α) choice.audio) = (.ok audio, journal) ∧
        equip denies s choice renderer opened =
          (.ok (inputs, audio), ⟨renderer, some inputs, some audio, journal⟩)) := by
  unfold equip
  rcases Inputs.create choice.host s.keymap with failure | inputs
  · exact .inl ⟨failure, rfl, rfl⟩
  · dsimp only
    rcases opened.bringUp denies (Audio.create (α := α) choice.audio) with
      ⟨failure | audio, journal⟩
    · exact .inr ⟨inputs, rfl, .inl ⟨failure, journal, rfl, rfl⟩⟩
    · exact .inr ⟨inputs, rfl, .inr ⟨audio, journal, rfl, rfl⟩⟩

/-- The machine of a session uses the host. -/
theorem isWork_of_work (clock : Clock σ α) (rounds : Nat) (state : σ)
    (polls : List (List HostEvent)) (s : Settings α) (program : List UInt8) (renderer : Renderer)
    (inputs : Inputs α) (audio : Audio) :
    Journal.Adds Entry.IsWork #[]
      (work clock rounds state polls s program renderer inputs audio).2 := by
  have hcreated := Machine.work_create renderer inputs audio s.clockSpeed
    (if s.debug then .live else .quiet) s.seed true
  unfold work startMachine
  dsimp only
  rcases hcreate : Machine.create renderer inputs audio s.clockSpeed
    (if s.debug then .live else .quiet) s.seed true with ⟨failure, made⟩ | m
  · rw [hcreate] at hcreated
    exact hcreated
  · rw [hcreate] at hcreated
    dsimp only
    have hloaded := hcreated.trans (m.work_pass (.load program))
    change Journal.Adds _ _ (m.load program).2.journal at hloaded
    rcases hload : m.load program with ⟨failure | done, loaded⟩
    · rw [hload] at hloaded
      exact hloaded
    · rw [hload] at hloaded
      dsimp only
      rcases hstart : Loop.start clock loaded state polls with failure | loop
      · exact hloaded
      · obtain ⟨_, _, -, rfl⟩ := Loop.exists_start hstart
        exact hloaded.trans (Loop.work_run clock rounds _)

/-- What the body leaves alone, what it brings up, and what it records. -/
theorem body_spec {clock : Clock σ α} {rounds : Nat} {state : σ} {polls : List (List HostEvent)}
    {result : Option (Except Failure Unit)}
    (h : body denies clock rounds state polls s program choice renderer opened =
      (result, stage)) :
    stage.renderer = renderer ∧
      (stage.inputs?.isSome ↔
        ∃ inputs : Inputs α, Inputs.create choice.host s.keymap = .ok inputs) ∧
      (stage.audio?.isSome ↔
        (∃ inputs : Inputs α, Inputs.create choice.host s.keymap = .ok inputs) ∧
          ∃ audio, (opened.bringUp denies (Audio.create (α := α) choice.audio)).1 = .ok audio) ∧
      Journal.Adds Entry.IsWork opened stage.journal := by
  have haudio := Journal.Adds.bringUp opened denies (P := Entry.IsWork)
    (Audio.isUse_of_create (α := α) choice.audio)
  unfold body at h
  obtain ⟨failure, hinputs, hequip⟩ | ⟨inputs, hinputs, hup⟩ :=
    equip_cases denies s choice renderer opened
  · rw [hequip] at h
    obtain ⟨rfl, rfl⟩ := Prod.mk.inj h
    rw [hinputs]
    exact ⟨rfl, by simp, by simp, .refl _⟩
  · obtain ⟨failure, journal, hbringUp, hequip⟩ | ⟨audio, journal, hbringUp, hequip⟩ := hup
    · rw [hequip] at h
      rw [hbringUp] at haudio
      obtain ⟨rfl, rfl⟩ := Prod.mk.inj h
      rw [hinputs, hbringUp]
      exact ⟨rfl, by simp, by simp, haudio⟩
    · rw [hequip] at h
      rw [hbringUp] at haudio
      obtain ⟨-, rfl⟩ := Prod.mk.inj h
      rw [hinputs, hbringUp]
      refine ⟨rfl, by simp, by simp, haudio.trans (.attempt _ _ _ ?_)⟩
      obtain ⟨added, hadded, hwork⟩ := isWork_of_work clock rounds state polls s program renderer
        inputs audio
      rw [hadded, Array.empty_append]
      exact hwork

/-! ### The way in -/

omit [TimeNumber α] in
/-- The three ways in: nothing is recorded without a level for the log, nothing but the banner
without the program and the devices, and with them the renderer comes up, or does not. -/
theorem enter_cases (denies : Denial) (s : Settings α) (program? : Option (List UInt8))
    (host : HostFacts) :
    (∃ failure, s.level = .error failure ∧
      enter denies s program? host = (.error failure, #[])) ∨
    (∃ failure, requirements s program? host = .error failure ∧
      enter denies s program? host = (.error failure, #[.log .info banner])) ∨
    ∃ program choice made journal, (∃ level, s.level = .ok level) ∧
      requirements s program? host = .ok (program, choice) ∧
      Journal.bringUp denies (#[.log .info banner] : Journal α)
        (Renderer.create choice.host (rendererSettings s) host.terminal) = (made, journal) ∧
      enter denies s program? host = (made.map fun renderer ↦ (program, choice, renderer), journal) := by
  unfold enter
  rcases hlevel : s.level with failure | level
  · exact .inl ⟨failure, rfl, rfl⟩
  · dsimp only
    rcases requirements s program? host with failure | ⟨program, choice⟩
    · exact .inr (.inl ⟨failure, rfl, rfl⟩)
    · dsimp only
      rcases hmade : Journal.bringUp denies (#[.log .info banner] : Journal α)
        (Renderer.create choice.host (rendererSettings s) host.terminal) with
        ⟨failure | renderer, journal⟩
      · exact .inr (.inr ⟨program, choice, .error failure, journal, ⟨level, rfl⟩, rfl, hmade, rfl⟩)
      · exact .inr (.inr ⟨program, choice, .ok renderer, journal, ⟨level, rfl⟩, rfl, hmade, rfl⟩)

omit [TimeNumber α] in
/-- A session that is in has a renderer for the host that it chose, which was granted its calls. -/
theorem enter_eq_ok {program? : Option (List UInt8)}
    (h : enter denies s program? host = (.ok (program, choice, renderer), opened)) :
    renderer.kind = choice.host ∧
      opened = #[.log .info banner] ++ Journal.ofCalls
        (Renderer.create choice.host (rendererSettings s) host.terminal).2 := by
  obtain ⟨_, -, henter⟩ | ⟨_, -, henter⟩ | ⟨program', choice', made, journal, -, -, hmade, henter⟩ :=
    enter_cases denies s program? host
  · cases h.symm.trans henter
  · cases h.symm.trans henter
  · obtain ⟨hresult, rfl⟩ := Prod.mk.inj (h.symm.trans henter)
    rcases made with failure | up
    · cases hresult
    · cases hresult
      obtain ⟨hcreate, hopened⟩ := Journal.bringUp_eq_ok _ hmade
      exact ⟨Renderer.kind_of_create hcreate, hopened⟩

/-! ### The shutdown -/

/-- The second stage is what is left of the first when it was closed in order. -/
structure ClosedInOrder (stage closed : Stage α) : Prop where
  /-- The shutdown follows the body, and nothing follows the shutdown. -/
  journal_eq : closed.journal = stage.journal ++ closingEntries stage
  /-- What is up is shut down once and in order, and nothing else ever is. -/
  shutdowns_eq : closed.journal.shutdowns = devicesUp stage
  /-- The calls behind those of the body shut the audio and the renderer down. -/
  calls_eq : closed.journal.calls = stage.journal.calls ++ closingCalls stage
  /-- The inputs have been told to stop, if they are up. -/
  inputs_eq : closed.inputs? = stage.inputs?.map Inputs.stop
  /-- The last call of all shuts the display down, and no other one does. -/
  display_last : stage.renderer.kind ≠ .headless →
    ∃ before c, closed.journal.calls = before ++ [c] ∧ c.closes? = some stage.renderer.kind ∧
      ∀ d ∈ before, d.closes? = none

omit [TimeNumber α] in
/-- What brings the renderer up, work behind it and the shutdown make an orderly end. -/
theorem closedInOrder_of_adds
    (hopened : opened = #[.log .info banner] ++ Journal.ofCalls
      (Renderer.create choice.host (rendererSettings s) host.terminal).2)
    (hwork : Journal.Adds Entry.IsWork opened stage.journal) :
    ClosedInOrder stage (shutDown stage) := by
  have hshutdowns : stage.journal.shutdowns = [] := by
    rw [hwork.shutdowns_eq fun role ↦ id, hopened, Journal.shutdowns_append,
      Journal.shutdowns_ofCalls]
    rfl
  -- Neither what brought the renderer up nor the work behind it shuts a display down.
  have hcloses : ∀ c ∈ stage.journal.calls, c.closes? = none := by
    obtain ⟨added, hadded, huse⟩ := hwork
    intro c hc
    rw [hadded, hopened, Journal.calls_append, Journal.calls_append, Journal.calls_ofCalls] at hc
    obtain (hc | hc) | hc := (List.mem_append.1 hc).imp_left List.mem_append.1
    · cases hc
    · exact Renderer.closes_of_create _ _ _ c hc
    · exact (huse _ (Journal.mem_calls.1 hc)).2
  have hcalls : (shutDown stage).journal.calls = stage.journal.calls ++ closingCalls stage := by
    unfold shutDown
    rw [Journal.calls_append, calls_closingEntries]
  refine ⟨rfl, ?_, hcalls, rfl, fun hkind ↦ ?_⟩
  · unfold shutDown
    rw [Journal.shutdowns_append, hshutdowns, shutdowns_closingEntries, List.nil_append]
  · obtain ⟨before, c, hlast, hc, hbefore⟩ := Renderer.closes_of_closing hkind
    refine ⟨stage.journal.calls ++ ((stage.audio?.map Audio.closing).getD [] ++ before), c, ?_, hc,
      fun d hd ↦ ?_⟩
    · rw [hcalls, closingCalls, hlast]
      simp only [List.append_assoc]
    · obtain hd | hd | hd := (List.mem_append.1 hd).imp_right List.mem_append.1
      · exact hcloses d hd
      · rcases haudio : stage.audio? with - | audio
        · rw [haudio] at hd
          cases hd
        · rw [haudio] at hd
          exact (audio.isUse_of_closing d hd).2
      · exact hbefore d hd

/-- A session whose renderer is up is its body and what closing comes to behind it. -/
theorem runAgainst_eq {denials : Denials} {program? : Option (List UInt8)} {clock : Clock σ α}
    {rounds : Nat} {state : σ} {polls : List (List HostEvent)}
    {result : Option (Except Failure Unit)}
    (hentered : enter denials.running s program? host = (.ok (program, choice, renderer), opened))
    (hbody : body denials.running clock rounds state polls s program choice renderer opened =
      (result, stage)) :
    runAgainst denials clock rounds state polls s program? host =
      ((stage.close denials.ending (some ∘ .error) result).1,
        (stage.close denials.ending (some ∘ .error) result).2.journal) := by
  unfold runAgainst
  rw [hentered]
  dsimp only
  rw [hbody]

/-- **Once its renderer is up, a session closes in order.** Whatever the settings, the program and
the events, and whatever calls the host denies up to then: the audio and the inputs are shut down if
they came up, and then the renderer, each once and in this order, with no other call behind them.
What the session yields is the result of its body, so a failure there is the one that leaves it. The
host may deny none of the calls of the shutdown but the cursor of a terminal. -/
theorem shutdown_in_order {denials : Denials} {program? : Option (List UInt8)}
    (clock : Clock σ α) (rounds : Nat) (state : σ) (polls : List (List HostEvent))
    (hentered : enter denials.running s program? host = (.ok (program, choice, renderer), opened))
    (hending : denials.ending.CursorOnly) :
    let done := body denials.running clock rounds state polls s program choice renderer opened
    let closed := done.2.close denials.ending (some ∘ .error) done.1
    let session := runAgainst denials clock rounds state polls s program? host
    session = (closed.1, closed.2.journal) ∧ session.1 = done.1 ∧
      ClosedInOrder done.2 closed.2 ∧
      done.2.renderer = renderer ∧ renderer.kind = choice.host ∧
      (done.2.inputs?.isSome ↔
        ∃ inputs : Inputs α, Inputs.create choice.host s.keymap = .ok inputs) ∧
      (done.2.audio?.isSome ↔
        (∃ inputs : Inputs α, Inputs.create choice.host s.keymap = .ok inputs) ∧
          ∃ audio, (opened.bringUp denials.running (Audio.create (α := α) choice.audio)).1 =
            .ok audio) := by
  dsimp only
  rcases hbody : body denials.running clock rounds state polls s program choice renderer
    opened with ⟨result, stage⟩
  obtain ⟨hkind, hopened⟩ := enter_eq_ok hentered
  obtain ⟨hrenderer, hinputs, haudio, hwork⟩ := body_spec stage hbody
  rw [runAgainst_eq stage hentered hbody, close_eq stage hending]
  exact ⟨rfl, rfl, closedInOrder_of_adds stage hopened hwork, hrenderer, hkind, hinputs, haudio⟩

/-- A host with a terminal that can hide its cursor but not show it, and no windows. -/
def cursorless : HostFacts :=
  ⟨⟨false, true⟩, ⟨[], false, TerminalHost.refusal fun mode ↦ mode != 1⟩⟩

/-- Settings that ask for sound, for a hidden cursor and for a clock that stands still. -/
def stalled : Settings ℚ where
  clockSpeed := .given 0
  renderer := none
  scale := .absent
  mute := some false
  keymap := .absent
  seed := .absent
  cursorMode := .given 0
  palette := .absent
  logLevel := .absent
  debug := false

/-- The renderer that such a session brings up. -/
def plainTerminal : Renderer :=
  .fresh (.terminal ⟨cursorless.terminal, (-1, -1), .given 0⟩) 2 ""

/-- What such a session has recorded by then. -/
def plainOpening : Journal ℚ :=
  #[.log .info banner] ++ Journal.ofCalls [.openTerminal, .cursor (.given 0), .echoOff, .charMode,
    Renderer.padFor 0 0 2]

/-- The machine of such a session fails at power-on, when all devices are up. -/
theorem exists_body_stalled :
    ∃ inputs, body (Denial.ofTerminal cursorless.terminal) Metronome.clock 1
      (⟨0, 1⟩ : Metronome ℚ) [] stalled [0x12, 0x00] ⟨.terminal, .bell⟩ plainTerminal
      plainOpening =
        (some (.error .clockSpeed), ⟨plainTerminal, some inputs, some .bell, plainOpening⟩) := by
  have hup : (Inputs.create (α := ℚ) .terminal .absent).isOk = true := by decide +kernel
  rcases hinputs : Inputs.create (α := ℚ) .terminal .absent with failure | inputs
  · rw [hinputs] at hup
    cases hup
  · have hequip : equip (Denial.ofTerminal cursorless.terminal) stalled
        ⟨.terminal, .bell⟩ plainTerminal plainOpening =
          (.ok (inputs, .bell), ⟨plainTerminal, some inputs, some .bell, plainOpening⟩) := by
      unfold equip
      rw [show Inputs.create (DeviceChoice.mk .terminal .bell).host stalled.keymap =
        .ok inputs from hinputs]
      rfl
    refine ⟨inputs, ?_⟩
    unfold body
    rw [hequip]
    rfl

/-- All devices of such a session are shut down, and the terminal is left although it denies its
cursor. -/
theorem shutdown_in_order_stalled :
    let session := run Metronome.clock 1 ⟨0, 1⟩ [] stalled (some [0x12, 0x00]) cursorless
    session.1 = some (.error .clockSpeed) ∧
      session.2.shutdowns = [.audio, .inputs, .renderer] ∧
      [.lineMode, .echoOn, .cursor (.given 1), .closeTerminal] <:+ session.2.calls := by
  have hentered : enter (Denials.ofTerminal cursorless.terminal).running stalled
      (some [0x12, 0x00]) cursorless =
        (.ok ([0x12, 0x00], ⟨.terminal, .bell⟩, plainTerminal), plainOpening) := rfl
  obtain ⟨inputs, hbody⟩ := exists_body_stalled
  obtain ⟨hsession, hresult, hclosed, -⟩ := shutdown_in_order Metronome.clock 1
    (⟨0, 1⟩ : Metronome ℚ) [] hentered (Denial.cursorOnly_refusal rfl)
  have hjournal := congrArg Prod.snd hsession
  rw [show (Denials.ofTerminal cursorless.terminal).running =
    Denial.ofTerminal cursorless.terminal from rfl, hbody] at hresult hclosed hjournal
  dsimp only
  unfold run
  rw [hjournal]
  exact ⟨hresult, hclosed.shutdowns_eq, _, hclosed.calls_eq.symm⟩

end Session

end ChipEight
