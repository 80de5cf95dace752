import ChipEight.Host.Journal

/-!
# Additions to a journal

A journal only grows, and each of its views reads the entries of one kind. `Journal.Adds` says that
one journal is another with entries of some kinds added; a view that sees none of these kinds is the
same for both.
-/

namespace ChipEight

variable {α : Type}

/-- The entry is a text: a log record or a line printed. -/
def Entry.IsText : Entry α → Prop
  | .log _ _ | .line _ => True
  | _ => False

namespace Journal

/-! ### Views of a sum -/

@[simp] theorem calls_empty : Journal.calls (#[] : Journal α) = [] := rfl

@[simp] theorem shutdowns_empty : Journal.shutdowns (#[] : Journal α) = [] := rfl

section Views

variable (j added : Journal α)

theorem calls_append : (j ++ added).calls = j.calls ++ added.calls := by
  unfold calls
  rw [Array.toList_append, List.filterMap_append]

theorem displays_append : (j ++ added).displays = j.displays ++ added.displays := by
  unfold displays
  rw [Array.toList_append, List.filterMap_append]

theorem buzzers_append : (j ++ added).buzzers = j.buzzers ++ added.buzzers := by
  unfold buzzers
  rw [Array.toList_append, List.filterMap_append]

theorem titles_append : (j ++ added).titles = j.titles ++ added.titles := by
  unfold titles
  rw [Array.toList_append, List.filterMap_append]

theorem shutdowns_append : (j ++ added).shutdowns = j.shutdowns ++ added.shutdowns := by
  unfold shutdowns
  rw [Array.toList_append, List.filterMap_append]

theorem frames_push (entry : Entry α) :
    Journal.frames (j.push entry) = j.frames ++ Journal.frames #[entry] := by
  unfold frames
  rw [Array.push_eq_append, Array.toList_append, List.filterMap_append]

theorem pauses_push (entry : Entry α) :
    Journal.pauses (j.push entry) = j.pauses ++ Journal.pauses #[entry] := by
  unfold pauses
  rw [Array.push_eq_append, Array.toList_append, List.filterMap_append]

variable (calls : List HostCall)

theorem calls_ofCalls : (ofCalls calls : Journal α).calls = calls := by
  unfold Journal.calls ofCalls
  rw [List.filterMap_map]
  exact List.filterMap_some

theorem displays_ofCalls : (ofCalls calls : Journal α).displays = [] := by
  simp [displays, ofCalls, List.filterMap_map]

theorem buzzers_ofCalls : (ofCalls calls : Journal α).buzzers = [] := by
  simp [buzzers, ofCalls, List.filterMap_map]

theorem titles_ofCalls : (ofCalls calls : Journal α).titles = [] := by
  simp [titles, ofCalls, List.filterMap_map]

theorem shutdowns_ofCalls : (ofCalls calls : Journal α).shutdowns = [] := by
  simp [shutdowns, ofCalls, List.filterMap_map]

theorem mem_calls {j : Journal α} {c : HostCall} : c ∈ j.calls ↔ .call c ∈ j := by
  unfold Journal.calls
  rw [List.mem_filterMap, ← Array.mem_toList_iff]
  constructor
  · rintro ⟨entry, hentry, hc⟩
    cases entry
    case call d =>
      cases hc
      exact hentry
    all_goals cases hc
  · exact fun h ↦ ⟨.call c, h, rfl⟩

theorem mem_ofCalls {entry : Entry α} :
    entry ∈ (ofCalls calls : Journal α) ↔ ∃ c ∈ calls, .call c = entry := by
  simp [ofCalls]

end Views

/-! ### Additions of some kinds -/

/-- The second journal is the first with entries of some kinds added. -/
def Adds (P : Entry α → Prop) (j k : Journal α) : Prop :=
  ∃ added : Journal α, k = j ++ added ∧ ∀ entry ∈ added, P entry

namespace Adds

variable {P Q : Entry α → Prop} {j k l : Journal α}

theorem refl (j : Journal α) : Adds P j j :=
  ⟨#[], (Array.append_empty ..).symm, fun entry h ↦ by cases Array.not_mem_empty entry h⟩

theorem push {entry : Entry α} (h : P entry) : Adds P j (j.push entry) := by
  refine ⟨#[entry], Array.push_eq_append, fun other hother ↦ ?_⟩
  rw [Array.mem_singleton.1 hother]
  exact h

theorem calls {calls : List HostCall} (h : ∀ c ∈ calls, P (.call c)) :
    Adds P j (j ++ ofCalls calls) := by
  refine ⟨ofCalls calls, rfl, fun entry hentry ↦ ?_⟩
  obtain ⟨c, hc, rfl⟩ := (mem_ofCalls calls).1 hentry
  exact h c hc

theorem lines (j : Journal α) (lines : List String) (h : ∀ text, P (.line text)) :
    Adds P j (j ++ (lines.map Entry.line).toArray) := by
  refine ⟨(lines.map Entry.line).toArray, rfl, fun entry hentry ↦ ?_⟩
  obtain ⟨text, -, rfl⟩ := List.mem_map.1 (List.mem_toArray.1 hentry)
  exact h text

theorem trans (h : Adds P j k) (h' : Adds P k l) : Adds P j l := by
  obtain ⟨first, rfl, hfirst⟩ := h
  obtain ⟨later, rfl, hlater⟩ := h'
  refine ⟨first ++ later, Array.append_assoc .., fun entry hentry ↦ ?_⟩
  exact (Array.mem_append.1 hentry).elim (hfirst entry) (hlater entry)

theorem mono (h : Adds P j k) (hP : ∀ entry, P entry → Q entry) : Adds Q j k := by
  obtain ⟨added, rfl, hadded⟩ := h
  exact ⟨added, rfl, fun entry hentry ↦ hP entry (hadded entry hentry)⟩

/-- A view that sees none of the entries added is the same for both journals. -/
theorem filterMap_eq {β : Type} {f : Entry α → Option β} (h : Adds P j k)
    (hf : ∀ entry, P entry → f entry = none) : k.toList.filterMap f = j.toList.filterMap f := by
  obtain ⟨added, rfl, hadded⟩ := h
  have hnone : added.toList.filterMap f = [] :=
    List.filterMap_eq_nil_iff.2 fun entry hentry ↦ hf entry (hadded entry (Array.mem_toList_iff.1 hentry))
  rw [Array.toList_append, List.filterMap_append, hnone, List.append_nil]

theorem displays_eq (h : Adds P j k) (hP : ∀ pixels, ¬ P (.display pixels)) :
    k.displays = j.displays :=
  h.filterMap_eq fun entry hentry ↦ by
    cases entry
    case display pixels => exact absurd hentry (hP pixels)
    all_goals rfl

theorem buzzers_eq (h : Adds P j k) (hP : ∀ enabled, ¬ P (.buzzer enabled)) :
    k.buzzers = j.buzzers :=
  h.filterMap_eq fun entry hentry ↦ by
    cases entry
    case buzzer enabled => exact absurd hentry (hP enabled)
    all_goals rfl

theorem titles_eq (h : Adds P j k) (hP : ∀ text, ¬ P (.title text)) :
    k.titles = j.titles :=
  h.filterMap_eq fun entry hentry ↦ by
    cases entry
    case title text => exact absurd hentry (hP text)
    all_goals rfl

theorem frames_eq (h : Adds P j k) (hP : ∀ elapsed, ¬ P (.frame elapsed)) :
    k.frames = j.frames :=
  h.filterMap_eq fun entry hentry ↦ by
    cases entry
    case frame elapsed => exact absurd hentry (hP elapsed)
    all_goals rfl

theorem pauses_eq (h : Adds P j k) (hP : ∀ seconds, ¬ P (.pause seconds)) :
    k.pauses = j.pauses :=
  h.filterMap_eq fun entry hentry ↦ by
    cases entry
    case pause seconds => exact absurd hentry (hP seconds)
    all_goals rfl

theorem shutdowns_eq (h : Adds P j k) (hP : ∀ role, ¬ P (.shutdown role)) :
    k.shutdowns = j.shutdowns :=
  h.filterMap_eq fun entry hentry ↦ by
    cases entry
    case shutdown role => exact absurd hentry (hP role)
    all_goals rfl

/-- The displays handed over so far stay. -/
theorem prefix_displays (h : Adds P j k) : j.displays <+: k.displays := by
  obtain ⟨added, rfl, -⟩ := h
  exact ⟨added.displays, (displays_append j added).symm⟩

end Adds

end Journal

end ChipEight
