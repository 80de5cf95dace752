import ChipEight.Host.Denial
import ChipEight.Proofs.Host.Journal

/-!
# What comes of calls that may be denied

A host that grants an operation its calls leaves it as it is. Any other host cuts its entries short
behind the first call denied, which fails in place of what the operation yields
(`Journal.attempt_cases`). So whatever is true of all entries of an operation is true of the entries
it comes to, on every host.
-/

namespace ChipEight

variable {α β : Type} {denies : Denial}

/-! ### Journals -/

namespace Journal

/-- The host grants all calls among some entries. -/
def Granted (denies : Denial) (entries : Journal α) : Prop :=
  ∀ moment, ∀ entry ∈ entries, denies.entry? moment entry = none

theorem granted_append {first second : Journal α} :
    Granted denies (first ++ second) ↔ Granted denies first ∧ Granted denies second := by
  simp only [Granted, Array.mem_append, or_imp, forall_and]

/-- Entries are added up to the first call denied. -/
theorem extend_cases (denies : Denial) (j : Journal α) (entries : List (Entry α)) :
    j.extend denies entries = (none, j ++ entries.toArray) ∨
      ∃ failure taken, taken <+: entries ∧
        j.extend denies entries = (some failure, j ++ taken.toArray) := by
  induction entries generalizing j with
  | nil => exact .inl (congrArg _ (Array.append_empty ..).symm)
  | cons entry rest ih =>
    unfold extend
    rcases denies.entry? j.size entry with - | failure
    · obtain hall | ⟨failure, taken, htaken, hcut⟩ := ih (j.push entry)
      · exact .inl (hall.trans (by simp))
      · exact .inr ⟨failure, entry :: taken, List.cons_prefix_cons.2 ⟨rfl, htaken⟩, hcut.trans (by simp)⟩
    · exact .inr ⟨failure, [entry], List.prefix_append [entry] rest, by simp⟩

theorem extend_of_granted (j : Journal α) {entries : List (Entry α)}
    (h : ∀ moment, ∀ entry ∈ entries, denies.entry? moment entry = none) :
    j.extend denies entries = (none, j ++ entries.toArray) := by
  induction entries generalizing j with
  | nil => exact congrArg _ (Array.append_empty ..).symm
  | cons entry rest ih =>
    unfold extend
    rw [h j.size entry List.mem_cons_self]
    exact (ih (j.push entry) fun moment other hother ↦
      h moment other (List.mem_cons_of_mem entry hother)).trans (by simp)

variable (j : Journal α)

/-- An operation that is granted its calls yields what it yields and records what it records. -/
theorem attempt_of_granted {failed : Failure → β} {operation : β × Journal α}
    (h : Granted denies operation.2) :
    j.attempt denies failed operation = (operation.1, j ++ operation.2) := by
  unfold attempt
  rw [j.extend_of_granted fun moment entry hentry ↦ h moment entry (Array.mem_toList_iff.1 hentry)]

/-- **What comes of an operation**: itself, or a failure behind the first of its entries. -/
theorem attempt_cases (denies : Denial) (failed : Failure → β) (operation : β × Journal α) :
    j.attempt denies failed operation = (operation.1, j ++ operation.2) ∨
      ∃ failure taken, taken.toList <+: operation.2.toList ∧
        j.attempt denies failed operation = (failed failure, j ++ taken) := by
  unfold attempt
  obtain hall | ⟨failure, taken, htaken, hcut⟩ := j.extend_cases denies operation.2.toList
  · exact .inl (by rw [hall])
  · exact .inr ⟨failure, taken.toArray, htaken, by rw [hcut]⟩

/-- What is true of all entries of an operation is true of those that it comes to. -/
theorem Adds.attempt (denies : Denial) (failed : Failure → β) {P : Entry α → Prop}
    {operation : β × Journal α} (h : ∀ entry ∈ operation.2, P entry) :
    Adds P j (j.attempt denies failed operation).2 := by
  obtain hall | ⟨failure, taken, htaken, hcut⟩ := j.attempt_cases denies failed operation
  · exact ⟨operation.2, congrArg Prod.snd hall, h⟩
  · refine ⟨taken, congrArg Prod.snd hcut, fun entry hentry ↦ h entry ?_⟩
    exact Array.mem_toList_iff.1 (htaken.subset (Array.mem_toList_iff.2 hentry))

/-- What is true of all calls that bring a device up is true of those that are made. -/
theorem Adds.bringUp (denies : Denial) {P : Entry α → Prop}
    {device : Except Failure β × List HostCall} (h : ∀ c ∈ device.2, P (.call c)) :
    Adds P j (j.bringUp denies device).2 := by
  refine Adds.attempt j denies _ fun entry hentry ↦ ?_
  obtain ⟨c, hc, rfl⟩ := (mem_ofCalls device.2).1 hentry
  exact h c hc

/-- A device that comes up has been granted all its calls. -/
theorem bringUp_eq_ok {device : Except Failure β × List HostCall} {up : β} {k : Journal α}
    (h : j.bringUp denies device = (.ok up, k)) :
    device.1 = .ok up ∧ k = j ++ ofCalls device.2 := by
  obtain hall | ⟨failure, taken, -, hcut⟩ := j.attempt_cases denies .error
    (device.1, ofCalls device.2)
  · obtain ⟨hup, hk⟩ := Prod.mk.inj (h.symm.trans hall)
    exact ⟨hup.symm, hk⟩
  · cases h.symm.trans hcut

end Journal

/-! ### Denials of a cursor -/

namespace Denial

/-- Nothing is denied but a cursor, and the cursor that shows by a terminal that cannot show it. -/
def CursorOnly (denies : Denial) : Prop :=
  ∀ moment call failure, denies moment call = some failure →
    (∃ mode, call = .cursor mode) ∧ (call = .cursor (.given 1) → failure = .cursorRefused)

/-- Such denials do not matter where no cursor but the one that shows is asked for. -/
theorem CursorOnly.granted_sparingCursor (h : denies.CursorOnly) {entries : Journal α}
    (hentries : ∀ mode, .call (.cursor mode) ∈ entries → mode = .given 1) :
    Journal.Granted denies.sparingCursor entries := by
  intro moment entry hentry
  cases entry
  case call c =>
    show denies.sparingCursor moment c = none
    unfold sparingCursor
    rcases hdenied : denies moment c with - | failure
    · cases c <;> rfl
    · obtain ⟨⟨mode, rfl⟩, hrefused⟩ := h moment c failure hdenied
      rw [hrefused (by rw [hentries mode hentry])]
  all_goals rfl

theorem cursorOnly_ofTerminal {t : TerminalHost}
    (h : ∀ failure, t.cursorFailure? (.given 1) = some failure → failure = .cursorRefused) :
    (ofTerminal t).CursorOnly := by
  intro moment call failure hdenied
  unfold ofTerminal at hdenied
  split at hdenied
  · refine ⟨⟨_, rfl⟩, fun hcursor ↦ ?_⟩
    cases hcursor
    exact h failure hdenied
  · cases hdenied

/-- A terminal refuses the cursor that shows in no other way. -/
theorem cursorOnly_refusal {t : TerminalHost} {shows : Int → Bool}
    (h : t.cursorFailure? = TerminalHost.refusal shows) : (ofTerminal t).CursorOnly := by
  refine cursorOnly_ofTerminal fun failure hfailure ↦ ?_
  rw [h] at hfailure
  unfold TerminalHost.refusal at hfailure
  dsimp only at hfailure
  split at hfailure
  · cases hfailure
  · exact (Option.some.inj hfailure).symm

/-- A terminal grants whatever does not ask for a cursor that it refuses. -/
theorem granted_ofTerminal {t : TerminalHost} {calls : List HostCall}
    (h : ∀ mode, .cursor mode ∈ calls → t.cursorFailure? mode = none) :
    Journal.Granted (ofTerminal t) (Journal.ofCalls calls : Journal α) := by
  intro moment entry hentry
  obtain ⟨c, hc, rfl⟩ := (Journal.mem_ofCalls calls).1 hentry
  show ofTerminal t moment c = none
  unfold ofTerminal
  split
  · exact h _ hc
  · rfl

end Denial

end ChipEight
