import ChipEight.Proofs.Machine.Operation
import ChipEight.Proofs.Processor.KeyWait

/-!
# The protocol of a wait for a key

What a program and a host can rely on. From the state in which a wait begins, and through any order
of steps, ticks and keys, a step ends the wait exactly if a key counts by the history of the wait,
and then with the lowest such key; otherwise it changes nothing that a program can see. Steps
without events between them change nothing at all. And in a machine whose program was loaded before
it ran, the flag of a wait is up in front of an `Fx0A` only.

The last part is false with programs loaded in between: loading one does not lower the flag.
-/

namespace ChipEight

namespace Processor

theorem waiting_loaded (s : Processor) (program : List UInt8) :
    (s.loaded program).waiting = s.waiting := by
  unfold loaded
  split <;> rfl

/-- Where the flag is down, it is justified. -/
theorem justified_of_not_waiting {s : Processor} (h : s.waiting = false) : s.Justified := by
  intro hwaiting
  rw [h] at hwaiting
  cases hwaiting

theorem coreInvariant_justified : CoreInvariant Justified where
  on _ event h := h.on event
  shown _ h := h
  restarted _ program _ := justified_of_not_waiting (waiting_loaded _ program)

end Processor

namespace Machine

open Processor

variable {α : Type} [TimeNumber α]

/-- Once its program is loaded, a machine keeps the flag of a wait justified, also within its
frames. -/
theorem justified_afterAll {renderer : Renderer} {inputs : Inputs α} {audio : Audio}
    {speed : Setting α} {debugger : Debugger} {seed : Setting Int} {keypadShared : Bool}
    {m : Machine α}
    (h : create renderer inputs audio speed debugger seed keypadShared = .ok m)
    (program : List UInt8) (operations : List (Operation α))
    (hoperations : ∀ program, .load program ∉ operations) (events : List Event) :
    (((m.load program).2.afterAll operations).core.after events).Justified := by
  obtain ⟨random, hcore⟩ := core_create h
  have hstart : (m.load program).2.core.Justified := by
    apply justified_of_not_waiting
    rw [core_load, waiting_loaded, hcore]
    rfl
  have hrun : ((m.load program).2.afterAll operations).core.Justified :=
    coreInvariant_justified.afterAll hstart operations
      fun program hmem ↦ absurd hmem (hoperations program)
  exact after_invariant (fun _ event hs ↦ hs.on event) hrun events

/-- **The protocol of a wait for a key.** -/
theorem key_wait_protocol :
    (∀ (s : Processor) (x : Reg) (events : List Event), s.waiting = false →
      s.fetch = .ok (awaitWord x) → .ok .next ∉ s.results events →
        (∀ key, s.Fresh events key → (∀ lower < key, ¬ s.Fresh events lower) →
          (s.after events).step = (.ok .next, (s.after events).ended x key)) ∧
        ((∀ key, ¬ s.Fresh events key) →
          (s.after events).step = (.ok .wait, (s.after events).kept x)) ∧
        ((s.after events).step.1 = .ok .next ↔ ∃ key, s.Fresh events key)) ∧
    (∀ s t : Processor, s.step = (.ok .wait, t) → ∀ n,
      t.after (List.replicate n .step) = t ∧
        ∀ result ∈ t.results (List.replicate n .step), result = .ok .wait) ∧
    (∀ renderer (inputs : Inputs α) audio speed debugger seed keypadShared m,
      create renderer inputs audio speed debugger seed keypadShared = .ok m →
        ∀ program operations, (∀ other, .load other ∉ operations) → ∀ events s,
          s = ((m.load program).2.afterAll operations).core.after events →
            s.waiting = true → ∃ x, s.fetch = .ok (awaitWord x)) := by
  refine ⟨?_, ?_, ?_⟩
  · intro s x events hwaiting hfetch hresults
    refine ⟨fun key hfresh hlowest ↦ ?_, fun hnone ↦ ?_, ?_⟩
    · exact step_after_of_fresh hwaiting hfetch hresults hfresh hlowest
    · exact step_after_of_not_fresh hwaiting hfetch hresults hnone
    · exact step_after_eq_next_iff hwaiting hfetch hresults
  · intro s t hstep n
    exact after_replicate_of_step_eq_wait hstep n
  · rintro renderer inputs audio speed debugger seed keypadShared m hm program operations
      hoperations events s rfl
    exact justified_afterAll hm program operations hoperations events

/-- The protocol where key three is held when the wait begins and key seven is pressed later. -/
theorem key_wait_protocol_seven :
    (((bare #[0xF5, 0x0A]).after [.press 3, .step, .tick, .press 3, .press 7]).step =
      (.ok .next, ((bare #[0xF5, 0x0A]).after [.press 3, .step, .tick, .press 3, .press 7]).ended
        5 7)) ∧
    (bare #[0xF5, 0x0A]).step = (.ok .wait, (bare #[0xF5, 0x0A]).kept 5) ∧
    (∀ n, ((bare #[0xF5, 0x0A]).kept 5).after (List.replicate n .step) =
      (bare #[0xF5, 0x0A]).kept 5) ∧
    ∃ m : Machine Scalar,
      create (Renderer.fresh .headless 1 "") .script Audio.silent (.given (.whole 700)) .absent
        (.given 1) true = .ok m ∧
      ∀ program, (m.load program).2.core.waiting = true →
        ∃ x, (m.load program).2.core.fetch = .ok (awaitWord x) := by
  obtain ⟨hwait, hidle, hflag⟩ := key_wait_protocol (α := Scalar)
  have hfetch : (bare #[0xF5, 0x0A]).fetch = .ok (awaitWord 5) := by decide +kernel
  have hresults : .ok .next ∉
      (bare #[0xF5, 0x0A]).results [.press 3, .step, .tick, .press 3, .press 7] := by
    decide +kernel
  have hstep : (bare #[0xF5, 0x0A]).step = (.ok .wait, (bare #[0xF5, 0x0A]).kept 5) := by
    refine (hwait _ 5 [] rfl hfetch List.not_mem_nil).2.1 ?_
    unfold Fresh
    decide +kernel
  refine ⟨?_, hstep, fun n ↦ (hidle _ _ hstep n).1, ?_⟩
  · refine (hwait _ 5 _ rfl hfetch hresults).1 7 ?_ ?_
    · unfold Fresh
      decide +kernel
    · unfold Fresh
      decide +kernel
  · obtain ⟨m, hm⟩ := exists_create_scripted
    exact ⟨m, hm, fun program ↦ hflag _ _ _ _ _ _ _ m hm program [] (fun _ ↦ List.not_mem_nil) []
      _ rfl⟩

end Machine

end ChipEight
