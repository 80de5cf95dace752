import ChipEight.Proofs.Machine.Reached

/-!
# Actions

Between the operations of a machine its host may also touch the keypad, which it shares, and the
program of a debugger may step the processor or tick the timers by hand. An action is an operation
of the machine or an event of its core, and a run of actions is any list of them, so it can leave
off in the middle of what a frame does.

`Processor.Reached` says that a run of actions leads from power-on to a state. Theorems about "every
reachable state" are about these.
-/

namespace ChipEight

variable {α : Type}

namespace Machine

/-- What a host can do to a machine. -/
inductive Action (α : Type)
  /-- It asks the machine for an operation. -/
  | operation (op : Operation α)
  /-- It acts on the core. -/
  | event (event : Event)

variable [TimeNumber α]

/-- The machine after an action. -/
def act (m : Machine α) : Action α → Machine α
  | .operation op => m.operate op
  | .event event => { m with core := m.core.on event }

/-- The machine after a run of actions. -/
def afterActions (m : Machine α) (actions : List (Action α)) : Machine α :=
  actions.foldl act m

variable {m : Machine α} {actions : List (Action α)}

theorem afterActions_concat (m : Machine α) (actions : List (Action α)) (action : Action α) :
    m.afterActions (actions ++ [action]) = (m.afterActions actions).act action :=
  List.foldl_concat ..

end Machine

/-- **Runs of actions.** What survives every action of a run survives the run. -/
theorem CoreInvariant.afterActions [TimeNumber α] {P : Processor → Prop} (hP : CoreInvariant P)
    {m : Machine α} (h : P m.core) (actions : List (Machine.Action α))
    (hload : ∀ program, .operation (.load program) ∈ actions → ∀ s, P s → P (s.loaded program)) :
    P (m.afterActions actions).core := by
  induction actions generalizing m with
  | nil => exact h
  | cons action rest ih =>
    have haction : P (m.act action).core := by
      cases action with
      | operation op =>
        exact hP.operate h op fun program heq ↦ hload program (heq ▸ List.mem_cons_self)
      | event event => exact hP.on m.core event h
    exact ih haction fun program hmem ↦ hload program (List.mem_cons_of_mem action hmem)

namespace Processor

variable {s : Processor}

/-- A run of actions leads a machine's core from power-on to this state, whatever kind of number
measures the machine's time, and whatever its settings and devices are. -/
def Reached (s : Processor) : Prop :=
  ∃ (α : Type) (_ : TimeNumber α) (renderer : Renderer) (inputs : Inputs α) (audio : Audio)
    (speed : Setting α) (debugger : Debugger) (seed : Setting Int) (keypadShared : Bool)
    (m : Machine α) (actions : List (Machine.Action α)),
    Machine.create renderer inputs audio speed debugger seed keypadShared = .ok m ∧
      s = (m.afterActions actions).core

/-- **Every state that is reached lies within the bounds.** -/
theorem Reached.sound (h : s.Reached) : s.Sound := by
  obtain ⟨α, _, renderer, inputs, audio, speed, debugger, seed, keypadShared, m, actions, hm,
    rfl⟩ := h
  obtain ⟨random, hcore⟩ := Machine.core_create hm
  have hstart : m.core.Sound := hcore ▸ sound_initial random
  exact coreInvariant_sound.afterActions hstart actions fun program _ _ hs ↦ hs.loaded program

/-- An event leads on from a state that is reached. -/
theorem Reached.on (h : s.Reached) (event : Event) : (s.on event).Reached := by
  obtain ⟨α, _, renderer, inputs, audio, speed, debugger, seed, keypadShared, m, actions, hm,
    rfl⟩ := h
  refine ⟨α, _, renderer, inputs, audio, speed, debugger, seed, keypadShared, m,
    actions ++ [.event event], hm, ?_⟩
  rw [Machine.afterActions_concat]
  rfl

/-- The processor of power-on with any seed and any program loaded is reached. -/
theorem reached_loaded (seed : Int) (program : List UInt8) :
    ((initial (Twister.ofSeed seed)).loaded program).Reached := by
  obtain ⟨m, hm, hcore⟩ := Machine.exists_create_headless (α := Scalar) .script Audio.silent
    (.whole 700) rfl .absent seed true
  refine ⟨Scalar, _, _, _, _, _, _, _, _, m, [.operation (.load program)], hm, ?_⟩
  show _ = (m.load program).2.core
  rw [Machine.core_load, hcore]

end Processor

end ChipEight
