import ChipEight.Host.TerminalKeys
import ChipEight.Proofs.Host.Keymap
import ChipEight.TimeNumber.Scalar

/-!
# The reader of a terminal

The reader turns the codes typed at a terminal into items of the queue. A code whose lower-case form
asks to quit ends it, and it fails with a code that has no lower-case form; all other codes are
`Plain`. Nothing behind a code that is not plain is read (`TerminalKeys.read_append_of_not_plain`),
so a reading falls into the plain codes at its front and what the first other code does.

A key that finds the queue full is lost, so keys put into the queue one by one arrive there as far
as there are places for them (`TerminalKeys.foldl_enqueue`). Where every code has a lower-case form,
the keys are therefore known from the start. A quit mark is not lost: it follows the keys if there
is a place for it, and else as soon as a poll has made one (`TerminalKeys.read_queues_typed`).

A terminal reports codes without a lower-case form, too: the one for no input, and that of the one
character whose lower-case form has two characters. They stand for no key, but the reader fails with
them, and with it goes the key that asks to quit (`TerminalKeys.read_fails_iff`,
`TerminalKeys.read_lost_of_noInput`).
-/

namespace ChipEight.TerminalKeys

variable {α : Type} {t : TerminalKeys α} {text : String} {code : Int} {codes lowers : List Int}

/-! ### The queue -/

/-- The keys with items at the end of the queue. -/
def queued (t : TerminalKeys α) (items : List (Option Key)) : TerminalKeys α :=
  { t with queue := t.queue ++ items }

theorem put_eq_queued (t : TerminalKeys α) (item : Option Key) : t.put item = t.queued [item] := rfl

theorem queued_nil (t : TerminalKeys α) : t.queued [] = t := by
  unfold queued
  rw [List.append_nil]

theorem queued_append (t : TerminalKeys α) (first second : List (Option Key)) :
    t.queued (first ++ second) = (t.queued first).queued second := by
  unfold queued
  rw [List.append_assoc]

/-- **Keys put into the queue** one by one arrive as far as there are places for them. -/
theorem foldl_enqueue (keys : List Key) (t : TerminalKeys α) :
    keys.foldl enqueue t = t.queued ((keys.take (queueLimit - t.queue.length)).map some) := by
  induction keys generalizing t with
  | nil => simp [queued_nil]
  | cons key rest ih =>
    rw [List.foldl_cons, ih]
    unfold enqueue isFull put queued
    by_cases hfull : queueLimit ≤ t.queue.length
    · simp [hfull, Nat.sub_eq_zero_of_le hfull]
    · obtain ⟨places, hplaces⟩ : ∃ places, queueLimit - t.queue.length = places + 1 :=
        Nat.exists_eq_add_one.2 (by omega)
      have hrest : queueLimit - (t.queue.length + 1) = places := by omega
      simp [hfull, hplaces, hrest]

theorem enqueueCode_eq_foldl (t : TerminalKeys α) (code : Int) :
    t.enqueueCode code = (t.keymap.key? code).toList.foldl enqueue t := by
  unfold enqueueCode
  rcases t.keymap.key? code with - | key <;> rfl

/-- A code can change the queue only, at its end. -/
theorem exists_enqueueCode (t : TerminalKeys α) (code : Int) :
    ∃ items, t.enqueueCode code = t.queued items :=
  ⟨_, (t.enqueueCode_eq_foldl code).trans (foldl_enqueue _ t)⟩

theorem stopped_enqueueCode (t : TerminalKeys α) (code : Int) :
    (t.enqueueCode code).stopped = t.stopped := by
  obtain ⟨items, h⟩ := t.exists_enqueueCode code
  rw [h]
  rfl

theorem keymap_enqueueCode (t : TerminalKeys α) (code : Int) :
    (t.enqueueCode code).keymap = t.keymap := by
  obtain ⟨items, h⟩ := t.exists_enqueueCode code
  rw [h]
  rfl

/-! ### One code -/

/-- The code has a lower-case form that does not ask to quit. -/
def Plain (code : Int) : Prop :=
  ∃ lower, Keymap.LowersTo code lower ∧ quits lower = false

/-- The code has a lower-case form that asks to quit. -/
def Quits (code : Int) : Prop :=
  ∃ lower, Keymap.LowersTo code lower ∧ quits lower = true

/-- A code that is not plain asks to quit or has no lower-case form. -/
theorem quits_or_of_not_plain (h : ¬ Plain code) :
    Quits code ∨ ∃ failure, Keymap.lowerCode code = .error failure := by
  rcases hlower : Keymap.lowerCode code with failure | lower
  · exact .inr ⟨failure, rfl⟩
  · have hlowers := Keymap.lowerCode_eq_ok_iff.1 hlower
    rcases hquits : quits lower
    · exact absurd ⟨lower, hlowers, hquits⟩ h
    · exact .inl ⟨lower, hlowers, hquits⟩

theorem Quits.not_plain (h : Quits code) : ¬ Plain code := by
  obtain ⟨lower, hlower, hquits⟩ := h
  rintro ⟨other, hother, hplain⟩
  obtain rfl := hlower.unique hother
  rw [hquits] at hplain
  cases hplain

theorem read_of_stopped (h : t.stopped = true) (codes : List Int) :
    t.read codes = (.ok .ended, t) := by
  cases codes with
  | nil => simp [read, h]
  | cons code codes => simp [read, h]

section Running

variable (hrunning : t.stopped = false)

include hrunning

theorem read_cons_of_lowersTo {lower : Int} (h : Keymap.LowersTo code lower) (codes : List Int) :
    t.read (code :: codes) =
      if quits lower then (.ok t.mark.1, t.mark.2) else (t.enqueueCode lower).read codes := by
  simp [read, hrunning, Keymap.lowerCode_eq_ok_iff.2 h]

theorem read_cons_of_error {failure : Failure} (h : Keymap.lowerCode code = .error failure)
    (codes : List Int) : t.read (code :: codes) = (.error failure, t) := by
  simp [read, hrunning, h]

end Running

/-! ### What the reader queues -/

/-- The keys of codes with these lower-case forms, in front of the first that asks to quit. -/
def typed (keymap : Keymap) (lowers : List Int) : List Key :=
  (lowers.takeWhile fun lower ↦ !quits lower).filterMap keymap.key?

theorem typed_cons_of_quits {keymap : Keymap} {lower : Int} (h : quits lower = true) :
    typed keymap (lower :: lowers) = [] := by
  simp [typed, h]

theorem typed_cons_of_not_quits {keymap : Keymap} {lower : Int} (h : quits lower = false) :
    typed keymap (lower :: lowers) = (keymap.key? lower).toList ++ typed keymap lowers := by
  rcases hkey : keymap.key? lower with - | key <;> simp [typed, h, hkey]

/-- Codes that all have a lower-case form are read without a failure. Their keys are put into the
queue, and behind them a quit mark, if one of the codes asks to quit. -/
theorem read_eq_foldl (hlowers : List.Forall₂ Keymap.LowersTo codes lowers)
    (hrunning : t.stopped = false) :
    t.read codes =
      let u := (typed t.keymap lowers).foldl enqueue t
      if lowers.any quits then (.ok u.mark.1, u.mark.2) else (.ok .listening, u) := by
  -- Every code leaves a reader with a longer queue to the rest, so the reader is general.
  induction hlowers generalizing t with
  | nil => simp [read, hrunning, typed]
  | @cons code lower codes lowers hlower _ ih =>
    rw [read_cons_of_lowersTo hrunning hlower, List.any_cons]
    rcases hquits : quits lower
    · rw [typed_cons_of_not_quits hquits, List.foldl_append, ← enqueueCode_eq_foldl,
        if_neg Bool.false_ne_true, ih ((t.stopped_enqueueCode lower).trans hrunning),
        keymap_enqueueCode, Bool.false_or]
    · rw [typed_cons_of_quits hquits]
      rfl

/-- **Nothing is read behind a code that is not plain.** -/
theorem read_append_of_not_plain (h : ¬ Plain code) (t : TerminalKeys α) (before more : List Int) :
    t.read (before ++ code :: more) = t.read (before ++ [code]) := by
  induction before generalizing t with
  | nil =>
    rw [List.nil_append, List.nil_append]
    rcases hrunning : t.stopped
    · obtain ⟨lower, hlower, hquits⟩ | ⟨failure, hlower⟩ := quits_or_of_not_plain h
      · simp only [read_cons_of_lowersTo hrunning hlower, hquits, if_true]
      · simp only [read_cons_of_error hrunning hlower]
    · simp only [read_of_stopped hrunning]
  | cons first before ih =>
    rw [List.cons_append, List.cons_append]
    unfold read
    simp only [ih]

/-- A lower-case form that asks to quit is that of a code. -/
theorem exists_quits (hlowers : List.Forall₂ Keymap.LowersTo codes lowers)
    (h : ∃ lower ∈ lowers, quits lower = true) : ∃ code ∈ codes, Quits code := by
  obtain ⟨lower, hlower, hquits⟩ := h
  induction hlowers with
  | nil => cases hlower
  | @cons code first codes lowers hfirst _ ih =>
    rcases List.mem_cons.1 hlower with rfl | hlower
    · exact ⟨code, List.mem_cons_self, _, hfirst, hquits⟩
    · obtain ⟨other, hother, hquitsOther⟩ := ih hlower
      exact ⟨other, List.mem_cons_of_mem code hother, hquitsOther⟩

/-- A quit mark that has a place ends the reader. -/
theorem mark_of_lt (h : t.queue.length < queueLimit) : t.mark = (.ended, t.queued [none]) := by
  have hfree : t.isFull = false := decide_eq_false (Nat.not_le.2 h)
  unfold mark
  rw [hfree, put_eq_queued]
  rfl

/-- A quit mark without a place is waited with. -/
theorem mark_of_le (h : queueLimit ≤ t.queue.length) : t.mark = (.waiting, t) := by
  have hfull : t.isFull = true := decide_eq_true h
  unfold mark
  rw [hfull]
  rfl

/-- A quit mark that is waited with is put into the queue once there is a place. -/
theorem resume_waiting_of_lt (h : t.queue.length < queueLimit) (codes : List Int) :
    t.resume (.ok .waiting) codes = (.ok .ended, t.queued [none]) := by
  unfold resume
  rw [mark_of_lt h]

theorem exists_mark (t : TerminalKeys α) : ∃ items, t.mark.2 = t.queued items := by
  rcases Nat.lt_or_ge t.queue.length queueLimit with hlt | hle
  · exact ⟨[none], by rw [mark_of_lt hlt]⟩
  · exact ⟨[], by rw [mark_of_le hle, queued_nil]⟩

section Polls

variable [TimeNumber α]

/-- A poll leaves some end of the queue. -/
theorem queue_drain (now : α) (queue : List (Option Key)) (t : TerminalKeys α) :
    (drain now queue t).2.queue.length ≤ queue.length - 1 := by
  induction queue generalizing t with
  | nil => exact Nat.zero_le _
  | cons item rest ih =>
    rcases item with - | key
    · exact Nat.le_refl _
    · simp only [drain]
      split
      · exact Nat.le_refl _
      · exact (ih _).trans (Nat.sub_le _ _)

/-- A poll makes a place in a queue that is not empty. -/
theorem length_queue_poll_lt (h : 0 < t.queue.length) (now : α) (k : Keypad) :
    (t.poll now k).2.1.queue.length < t.queue.length := by
  have hdrain := queue_drain now t.queue t
  have hpoll : (t.poll now k).2.1 = (drain now t.queue t).2 := by
    unfold poll
    rcases drain now t.queue t with ⟨failure | quit, drained⟩
    · rfl
    · cases quit <;> rfl
  rw [hpoll]
  omega

end Polls

/-- **What the reader queues.** With a keymap that was read, codes that all have a lower-case form
put into the queue, in turn, the keys of the codes in front of the first that asks to quit, as many
of them as there are places for. If there is such a code, nothing behind it is read, whatever is
typed there, and a quit mark follows the keys if they leave a place for it. If they leave none, the
reader waits with its quit mark, which it puts into the queue behind the next poll. A reader that
was told to stop reads and queues nothing. A code stands for the key whose code in the keymap has
the same lower-case form. -/
theorem read_queues_typed [TimeNumber α] (hparse : Keymap.parse true text = .ok t.keymap)
    (hlimit : t.queue.length ≤ queueLimit)
    (hlowers : List.Forall₂ Keymap.LowersTo codes lowers) :
    (t.stopped = false →
      let kept := ((typed t.keymap lowers).take (queueLimit - t.queue.length)).map some
      ((∀ lower ∈ lowers, quits lower = false) → t.read codes = (.ok .listening, t.queued kept)) ∧
      ((∃ lower ∈ lowers, quits lower = true) →
        (t.queue.length + kept.length < queueLimit →
          t.read codes = (.ok .ended, t.queued (kept ++ [none]))) ∧
        (t.queue.length + kept.length = queueLimit →
          t.read codes = (.ok .waiting, t.queued kept) ∧
            ∀ now k more, let polled := ((t.queued kept).poll now k).2.1
              polled.resume (.ok .waiting) more = (.ok .ended, polled.queued [none])) ∧
        t.queue.length + kept.length ≤ queueLimit ∧
        ∀ more, t.read (codes ++ more) = t.read codes)) ∧
    (t.stopped = true → ∀ more, t.read more = (.ok .ended, t)) ∧
    ∀ lower key, t.keymap.key? lower = some key ↔ Keymap.Assigns true text key lower := by
  refine ⟨fun hrunning ↦ ?_, read_of_stopped, fun _ _ ↦ Keymap.key?_of_parse hparse⟩
  intro kept
  have hread : t.read codes =
      if lowers.any quits then (.ok (t.queued kept).mark.1, (t.queued kept).mark.2)
      else (.ok .listening, t.queued kept) := by
    rw [read_eq_foldl hlowers hrunning, foldl_enqueue]
  have hlength : (t.queued kept).queue.length = t.queue.length + kept.length :=
    List.length_append
  have hkept : kept.length ≤ queueLimit - t.queue.length := by
    rw [List.length_map]
    exact List.length_take_le _ _
  refine ⟨fun hplain ↦ ?_,
    fun hquits ↦ ⟨fun hlt ↦ ?_, fun hfull ↦ ⟨?_, fun now k more ↦ ?_⟩, ?_, ?_⟩⟩
  · have hnone : lowers.any quits = false := by simpa using hplain
    rw [hread, hnone]
    rfl
  · rw [hread, if_pos (List.any_eq_true.2 hquits), mark_of_lt (hlength ▸ hlt), ← queued_append]
  · rw [hread, if_pos (List.any_eq_true.2 hquits), mark_of_le (hlength.trans hfull).ge]
  · have hplace := length_queue_poll_lt (t := t.queued kept)
      (by rw [hlength, hfull]; decide) now k
    rw [hlength, hfull] at hplace
    exact resume_waiting_of_lt hplace more
  · omega
  · intro more
    obtain ⟨code, hcode, hquitting⟩ := exists_quits hlowers hquits
    obtain ⟨before, after, rfl⟩ := List.append_of_mem hcode
    have hnot := hquitting.not_plain
    rw [List.append_assoc, List.cons_append, read_append_of_not_plain hnot,
      ← read_append_of_not_plain hnot t before after]

/-- A queue of some length, all of one key. -/
def crowded (keymap : Keymap) (length : Nat) : TerminalKeys Scalar :=
  (start keymap).queued (List.replicate length (some (Nibble.ofNat 2)))

/-- A layout in capital letters, and a large X, a mark that stands for no key, a 1, Escape and a 2
typed. With three places the keys `0` and `1` and the quit mark fill the queue. With two places the
reader is left with its quit mark, which is all that is in the queue behind a poll. -/
theorem read_queues_typed_filling :
    ∃ keymap, Keymap.parse true Keymap.capitals = .ok keymap ∧
      List.Forall₂ Keymap.LowersTo [88, 33, 49, 27, 50] [120, 33, 49, 27, 50] ∧
      (∀ more, (crowded keymap 13).read ([88, 33, 49, 27, 50] ++ more) =
        (.ok .ended, (crowded keymap 13).queued [some 0, some 1, none])) ∧
      (crowded keymap 14).read [88, 33, 49, 27, 50] =
        (.ok .waiting, (crowded keymap 14).queued [some 0, some 1]) ∧
      ∀ now k, let polled := (((crowded keymap 14).queued [some 0, some 1]).poll now k).2.1
        polled.resume (.ok .waiting) [] = (.ok .ended, polled.queued [none]) := by
  obtain ⟨keymap, hparse, htyped⟩ : ∃ keymap, Keymap.parse true Keymap.capitals = .ok keymap ∧
      typed keymap [120, 33, 49, 27, 50] = [0, 1] := ⟨_, rfl, rfl⟩
  have hlower {code lower : Int} (h : Keymap.lowerCode code = .ok lower) :
      Keymap.LowersTo code lower := Keymap.lowerCode_eq_ok_iff.1 h
  have hlowers : List.Forall₂ Keymap.LowersTo [88, 33, 49, 27, 50] [120, 33, 49, 27, 50] :=
    .cons (hlower rfl) (.cons (hlower rfl) (.cons (hlower rfl) (.cons (hlower rfl)
      (.cons (hlower rfl) .nil))))
  have hquits : ∃ lower ∈ [120, 33, 49, 27, 50], quits lower = true := ⟨27, by decide, rfl⟩
  obtain ⟨hfilled, -, -, hbehind⟩ := ((read_queues_typed (t := crowded keymap 13)
    hparse (Nat.le_add_left 13 3) hlowers).1 rfl).2 hquits
  obtain ⟨-, hwaiting, -⟩ := ((read_queues_typed (t := crowded keymap 14)
    hparse (Nat.le_add_left 14 2) hlowers).1 rfl).2 hquits
  rw [show (crowded keymap 13).keymap = keymap from rfl, htyped] at hfilled
  rw [show (crowded keymap 14).keymap = keymap from rfl, htyped] at hwaiting
  obtain ⟨hread, hdelivered⟩ := hwaiting rfl
  exact ⟨keymap, hparse, hlowers, fun more ↦ (hbehind more).trans (hfilled (Nat.le_refl 16)), hread,
    fun now k ↦ hdelivered now k []⟩

/-! ### How a reading ends -/

/-- The reader ends without a failure: it was told to stop, or the codes run out, or one of them,
behind plain ones, asks to quit. -/
def Ends (t : TerminalKeys α) (codes : List Int) : Prop :=
  t.stopped = true ∨ (∀ code ∈ codes, Plain code) ∨
    ∃ before code after, codes = before ++ code :: after ∧ (∀ c ∈ before, Plain c) ∧ Quits code

/-- The reader is stopped by a code, behind plain ones, that is no character, or the one character
without a lower-case form of one character. -/
def Breaks (t : TerminalKeys α) (codes : List Int) : Prop :=
  t.stopped = false ∧ ∃ before code after, codes = before ++ code :: after ∧
    (∀ c ∈ before, Plain c) ∧ (code < 0 ∨ 0x10FFFF < code ∨ code = 0x130)

/-- A reading ends or breaks. -/
theorem ends_or_breaks (t : TerminalKeys α) (codes : List Int) : t.Ends codes ∨ t.Breaks codes := by
  rcases hrunning : t.stopped
  · -- The first code that is not plain decides.
    classical
    rcases hfirst : codes.find? fun code ↦ !decide (Plain code) with - | code
    · exact .inl (.inr (.inl (by simpa using hfirst)))
    · obtain ⟨hnot, before, after, rfl, hbefore⟩ := List.find?_eq_some_iff_append.1 hfirst
      have hplain : ∀ c ∈ before, Plain c := by simpa using hbefore
      have hcode : ¬ Plain code := by simpa using hnot
      obtain hquits | hlower := quits_or_of_not_plain hcode
      · exact .inl (.inr (.inr ⟨before, code, after, rfl, hplain, hquits⟩))
      · exact .inr ⟨hrunning, before, code, after, rfl, hplain,
          Keymap.lowerCode_eq_error_iff.1 hlower⟩
  · exact .inl (.inl hrunning)

/-- Plain codes change the queue only, at its end, and the reader goes on behind them. -/
theorem exists_read_append (hrunning : t.stopped = false) {before : List Int}
    (hbefore : ∀ code ∈ before, Plain code) (rest : List Int) :
    ∃ items, t.read (before ++ rest) = (t.queued items).read rest := by
  induction before generalizing t with
  | nil => exact ⟨[], by rw [queued_nil, List.nil_append]⟩
  | cons code before ih =>
    obtain ⟨⟨lower, hlower, hquits⟩, hbefore⟩ := List.forall_mem_cons.1 hbefore
    obtain ⟨first, hfirst⟩ := t.exists_enqueueCode lower
    obtain ⟨items, hread⟩ := ih ((t.stopped_enqueueCode lower).trans hrunning) hbefore
    refine ⟨first ++ items, ?_⟩
    rw [List.cons_append, read_cons_of_lowersTo hrunning hlower, hquits,
      if_neg Bool.false_ne_true, hread, hfirst, queued_append]

/-- A reading that ends has put items at the end of the queue. -/
theorem Ends.exists_read (h : t.Ends codes) :
    ∃ reading items, t.read codes = (.ok reading, t.queued items) := by
  by_cases hstopped : t.stopped = true
  · exact ⟨.ended, [], by rw [read_of_stopped hstopped, queued_nil]⟩
  · have hrunning := Bool.eq_false_iff.2 hstopped
    obtain hplain | ⟨before, code, after, rfl, hbefore, lower, hlower, hquits⟩ :=
      h.resolve_left hstopped
    · obtain ⟨items, hread⟩ := exists_read_append hrunning hplain []
      rw [List.append_nil] at hread
      exact ⟨_, items, hread⟩
    · obtain ⟨items, hread⟩ := exists_read_append hrunning hbefore (code :: after)
      obtain ⟨mark, hmark⟩ := (t.queued items).exists_mark
      refine ⟨(t.queued items).mark.1, items ++ mark, ?_⟩
      rw [hread, read_cons_of_lowersTo (by exact hrunning) hlower, hquits, if_pos rfl, hmark,
        queued_append]

/-- A reading that breaks fails, and has put items at the end of the queue. -/
theorem Breaks.exists_read (h : t.Breaks codes) :
    ∃ failure items, t.read codes = (.error failure, t.queued items) := by
  obtain ⟨hrunning, before, code, after, rfl, hbefore, hcode⟩ := h
  obtain ⟨failure, hlower⟩ := Keymap.lowerCode_eq_error_iff.2 hcode
  obtain ⟨items, hread⟩ := exists_read_append hrunning hbefore (code :: after)
  exact ⟨failure, items, by rw [hread, read_cons_of_error (by exact hrunning) hlower]⟩

/-- **When the reader fails**: exactly if it was not told to stop and comes, behind plain codes, to
one that is no character, or to the one character without a lower-case form of one character. It
ends without a failure exactly if it was told to stop, or the codes run out, or one of them, behind
plain ones, asks to quit. In any case it has only put items at the end of the queue, and nothing
behind a code that is not plain was read. -/
theorem read_fails_iff (t : TerminalKeys α) (codes : List Int) :
    ((∃ failure, (t.read codes).1 = .error failure) ↔ t.Breaks codes) ∧
      ((∃ reading, (t.read codes).1 = .ok reading) ↔ t.Ends codes) ∧
      (∃ items, (t.read codes).2 = t.queued items) ∧
      ∀ before code more, ¬ Plain code →
        t.read (before ++ code :: more) = t.read (before ++ [code]) := by
  have hnothing (before : List Int) (code : Int) (more : List Int) (h : ¬ Plain code) :=
    read_append_of_not_plain h t before more
  obtain hends | hbreaks := t.ends_or_breaks codes
  · obtain ⟨reading, items, hread⟩ := hends.exists_read
    refine ⟨iff_of_false ?_ fun hbreaks ↦ ?_, iff_of_true ⟨reading, ?_⟩ hends, ⟨items, ?_⟩,
      hnothing⟩
    · simp [hread]
    · obtain ⟨failure, _, hfails⟩ := hbreaks.exists_read
      rw [hread] at hfails
      cases hfails
    · rw [hread]
    · rw [hread]
  · obtain ⟨failure, items, hread⟩ := hbreaks.exists_read
    refine ⟨iff_of_true ⟨failure, ?_⟩ hbreaks, iff_of_false ?_ fun hends ↦ ?_, ⟨items, ?_⟩,
      hnothing⟩
    · rw [hread]
    · simp [hread]
    · obtain ⟨_, _, hok⟩ := hends.exists_read
      rw [hread] at hok
      cases hok
    · rw [hread]

/-- However the reader goes on, it puts items at the end of the queue only. -/
theorem exists_resume (t : TerminalKeys α) (reader : Reader) (codes : List Int) :
    ∃ items, (t.resume reader codes).2 = t.queued items := by
  rcases reader with failure | - | - | -
  · exact ⟨[], t.queued_nil.symm⟩
  · obtain hends | hbreaks := t.ends_or_breaks codes
    · obtain ⟨_, items, hread⟩ := hends.exists_read
      exact ⟨items, congrArg Prod.snd hread⟩
    · obtain ⟨_, items, hread⟩ := hbreaks.exists_read
      exact ⟨items, congrArg Prod.snd hread⟩
  · exact t.exists_mark
  · exact ⟨[], t.queued_nil.symm⟩

/-- The code for no input ends the reader, and the Escape behind it is lost. -/
theorem read_lost_of_noInput :
    ¬ ∀ keymap, Keymap.parse true Keymap.usual = .ok keymap →
      ∀ failure, ((start keymap : TerminalKeys Scalar).read [-1, 27]).1 ≠ .error failure := by
  obtain ⟨keymap, hparse⟩ : ∃ keymap, Keymap.parse true Keymap.usual = .ok keymap := ⟨_, rfl⟩
  exact fun h ↦ h keymap hparse (.noCharacter (-1)) rfl

end ChipEight.TerminalKeys
