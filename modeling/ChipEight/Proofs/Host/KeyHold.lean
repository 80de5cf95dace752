import ChipEight.Proofs.Host.KeyReader
import ChipEight.Proofs.Keypad.Fresh
import Mathlib.Data.List.Induction
import Mathlib.Data.List.TakeWhile

/-!
# How long a terminal holds a key

A terminal does not tell when a key goes up, so a poll holds each key for a fifth of a second from
the last poll that took the key out of the queue. The keys keep one time for each key, the one up to
which it counts as held. Over a run of polls, at times in any order, this time is that of the last
poll that took the key, and a fifth of a second (`TerminalKeys.get_heldUntil_afterVisits`), so what
a key is after a poll can be read off the polls alone: `TerminalKeys.polls_follow_typing`.

A quit mark ends a poll before the keypad is touched. The keys in front of the mark were taken all
the same, and count from then on; the items behind it wait for the next poll.
-/

namespace ChipEight

/-- A double that is at least zero is not below zero. -/
theorem Binary64.not_lt_zero_of_le {x : Float} (h : 0 ≤ x) : ¬ x < 0 := by
  intro hlt
  have hle : Float.Model.UnpackedFloat.le (.zero .positive) x.toModel.unpack = true := by
    change decide ((0 : Float).toModel ≤ x.toModel) = true at h
    exact of_decide_eq_true h
  have hbelow : Float.Model.UnpackedFloat.lt x.toModel.unpack (.zero .positive) = true := by
    change decide (x.toModel < (0 : Float).toModel) = true at hlt
    exact of_decide_eq_true hlt
  generalize x.toModel.unpack = unpacked at hle hbelow
  rcases unpacked with ⟨s⟩ | _ | s | ⟨s, m, e, hm⟩
  · cases s with
    | positive => cases hbelow
    | negative => cases hle
  · cases hle
  · cases hbelow
  · cases s with
    | positive => cases hbelow
    | negative => cases hle

namespace TerminalKeys

variable {key : Key}

/-! ### One poll -/

/-- The keys that a poll takes out of a queue: those in front of the first quit mark. -/
def taken (queue : List (Option Key)) : List Key :=
  (queue.takeWhile Option.isSome).filterMap id

/-- What a poll leaves of a queue: the items behind the first quit mark. -/
def left (queue : List (Option Key)) : List (Option Key) :=
  (queue.dropWhile Option.isSome).tail

@[simp] theorem taken_nil : taken [] = [] := rfl

@[simp] theorem taken_none_cons (rest : List (Option Key)) : taken (none :: rest) = [] := rfl

@[simp] theorem taken_some_cons (first : Key) (rest : List (Option Key)) :
    taken (some first :: rest) = first :: taken rest := rfl

/-- A poll takes all of a queue without a quit mark. -/
theorem eq_taken {queue : List (Option Key)} (h : none ∉ queue) :
    queue = (taken queue).map some := by
  induction queue with
  | nil => rfl
  | cons item rest ih =>
    cases item with
    | none => exact absurd List.mem_cons_self h
    | some key =>
      exact congrArg (some key :: ·) (ih fun hrest ↦ h (List.mem_cons_of_mem _ hrest))

/-- A queue with a quit mark is what a poll takes, the mark, and what it leaves. -/
theorem eq_taken_append_left {queue : List (Option Key)} (h : none ∈ queue) :
    queue = (taken queue).map some ++ none :: left queue := by
  induction queue with
  | nil => cases h
  | cons item rest ih =>
    cases item with
    | none => rfl
    | some key =>
      have hrest : none ∈ rest := by simpa using h
      exact congrArg (some key :: ·) (ih hrest)

theorem left_eq_nil {queue : List (Option Key)} (h : none ∉ queue) : left queue = [] := by
  have hitems : ∀ item ∈ queue, item.isSome := fun item hitem ↦
    Option.isSome_iff_ne_none.2 fun hnone ↦ h (hnone ▸ hitem)
  unfold left
  rw [List.dropWhile_eq_nil_iff.2 hitems]
  rfl

/-- The times up to which keys count as held, after some of them were held up to the same time. -/
def holdAll (until_ : Scalar) (keys : List Key) (heldUntil : Vector Scalar 16) : Vector Scalar 16 :=
  .ofFn fun key ↦ if key ∈ keys then until_ else heldUntil.get key

theorem get_holdAll (until_ : Scalar) (keys : List Key) (heldUntil : Vector Scalar 16) :
    (holdAll until_ keys heldUntil).get key = if key ∈ keys then until_ else heldUntil.get key :=
  Vector.getElem_ofFn key.isLt

/-- The times are known by what they are for each key. -/
theorem eq_holdAll {until_ : Scalar} {keys : List Key} {heldUntil held : Vector Scalar 16}
    (h : ∀ key, held.get key = if key ∈ keys then until_ else heldUntil.get key) :
    held = holdAll until_ keys heldUntil := by
  refine Vector.ext fun i hi ↦ ?_
  show held.get ⟨i, hi⟩ = (holdAll until_ keys heldUntil).get ⟨i, hi⟩
  rw [get_holdAll, h]

theorem holdAll_nil (until_ : Scalar) (heldUntil : Vector Scalar 16) :
    holdAll until_ [] heldUntil = heldUntil :=
  (eq_holdAll fun _ ↦ (if_neg List.not_mem_nil).symm).symm

/-- The keys after a poll: those taken out of the queue are held for a fifth of a second. -/
def polled (t : TerminalKeys Scalar) (now : Float) : TerminalKeys Scalar :=
  { t with
    queue := left t.queue
    heldUntil := holdAll (.real (now + 0.2)) (taken t.queue) t.heldUntil }

theorem drain_eq (now : Float) (queue : List (Option Key)) (t : TerminalKeys Scalar) :
    drain (.real now) queue t = (.ok (queue.contains none), { t with
      queue := left queue
      heldUntil := holdAll (.real (now + 0.2)) (taken queue) t.heldUntil }) := by
  induction queue generalizing t with
  | nil =>
    rw [taken_nil, holdAll_nil]
    rfl
  | cons item rest ih =>
    cases item with
    | none =>
      rw [taken_none_cons, holdAll_nil]
      rfl
    | some first =>
      let until_ : Scalar := .real (now + 0.2)
      have hheld : holdAll until_ (taken rest) (t.heldUntil.set first until_) =
          holdAll until_ (first :: taken rest) t.heldUntil := by
        refine eq_holdAll fun key ↦ ?_
        rw [get_holdAll, Nibble.get_set]
        by_cases hkey : key ∈ taken rest
        · simp [hkey]
        · simp [hkey, eq_comm]
      rw [taken_some_cons, ← hheld]
      exact ih { t with heldUntil := t.heldUntil.set first until_ }

section Poll

variable {t : TerminalKeys Scalar} (now : Float) (k : Keypad)

/-- A poll that finds a quit mark leaves the keypad as it is. -/
theorem poll_of_mem (h : none ∈ t.queue) : t.poll (.real now) k = (.ok true, t.polled now, k) := by
  unfold poll
  rw [drain_eq, List.contains_iff_mem.2 h]
  rfl

/-- A poll that finds none brings the keypad up to date. -/
theorem poll_of_not_mem (h : none ∉ t.queue) :
    t.poll (.real now) k = (.ok false, t.polled now, (t.polled now).apply (.real now) k) := by
  unfold poll
  rw [drain_eq, Bool.eq_false_iff.2 (mt List.contains_iff_mem.1 h)]
  rfl

end Poll

section Apply

variable (t : TerminalKeys Scalar) (now : Scalar)

/-- A key held or let go as it counts. -/
def settleKey (k : Keypad) (key : Key) : Keypad :=
  if t.holds now key then k.press key else k.release key

theorem isDown_settleKey (k : Keypad) (settled key : Key) :
    (t.settleKey now k settled).isDown key =
      if settled = key then t.holds now key else k.isDown key := by
  unfold settleKey
  by_cases heq : settled = key
  · subst heq
    split <;> simp [Keypad.isDown_press, Keypad.isDown_release, *]
  · split <;> simp [Keypad.isDown_press, Keypad.isDown_release, heq]

theorem isLatched_settleKey (k : Keypad) (settled key : Key) :
    (t.settleKey now k settled).isLatched key =
      (k.isLatched key && (decide (settled ≠ key) || t.holds now key)) := by
  unfold settleKey
  by_cases heq : settled = key
  · subst heq
    split <;> simp [Keypad.isLatched_press, Keypad.isLatched_release, *]
  · split <;> simp [Keypad.isLatched_press, Keypad.isLatched_release, heq]

theorem isDown_foldl_settleKey (keys : List Key) (k : Keypad) (key : Key) :
    (keys.foldl (t.settleKey now) k).isDown key =
      if key ∈ keys then t.holds now key else k.isDown key := by
  induction keys generalizing k with
  | nil => simp
  | cons first keys ih =>
    rw [List.foldl_cons, ih, isDown_settleKey]
    by_cases hkeys : key ∈ keys
    · simp [hkeys]
    · simp [hkeys, eq_comm]

theorem isLatched_foldl_settleKey (keys : List Key) (k : Keypad) (key : Key) :
    (keys.foldl (t.settleKey now) k).isLatched key =
      (k.isLatched key && (decide (key ∉ keys) || t.holds now key)) := by
  induction keys generalizing k with
  | nil => simp
  | cons first keys ih =>
    rw [List.foldl_cons, ih, isLatched_settleKey, Bool.and_assoc]
    congr 1
    by_cases heq : first = key
    · cases t.holds now key <;> simp [heq]
    · cases t.holds now key <;> simp [heq, Ne.symm heq]

theorem apply_eq_foldl (k : Keypad) : t.apply now k = Key.all.foldl (t.settleKey now) k := rfl

/-- **Every key** is held or let go as it counts. -/
theorem isDown_apply (k : Keypad) (key : Key) : (t.apply now k).isDown key = t.holds now key := by
  rw [apply_eq_foldl, isDown_foldl_settleKey]
  exact if_pos (List.mem_finRange key)

/-- Every mark stays on a key that counts as held, and goes from one that does not. -/
theorem isLatched_apply (k : Keypad) (key : Key) :
    (t.apply now k).isLatched key = (k.isLatched key && t.holds now key) := by
  rw [apply_eq_foldl, isLatched_foldl_settleKey]
  simp [Key.all]

end Apply

/-! ### A run of polls -/

/-- A poll with what came before it: the items queued since the last one, the keypad as it was
found, and the time. -/
structure Visit where
  /-- The items queued since the last poll. -/
  items : List (Option Key)
  /-- The keypad as the poll finds it. -/
  keypad : Keypad
  /-- The time of the poll. -/
  now : Float

/-- A poll after the items before it were queued. -/
def visit (t : TerminalKeys Scalar) (v : Visit) :
    Except Failure Bool × TerminalKeys Scalar × Keypad :=
  (t.queued v.items).poll (.real v.now) v.keypad

/-- The keys after polls. -/
def afterVisits (t : TerminalKeys Scalar) (visits : List Visit) : TerminalKeys Scalar :=
  visits.foldl (fun t v ↦ (t.visit v).2.1) t

/-- When polls took which keys out of the queue. -/
def takings (t : TerminalKeys Scalar) : List Visit → List (Float × List Key)
  | [] => []
  | v :: rest => (v.now, taken (t.queue ++ v.items)) :: takings (t.visit v).2.1 rest

/-- When a key was last taken out of the queue. -/
def lastTaken? (takings : List (Float × List Key)) (key : Key) : Option Float :=
  (takings.reverse.find? fun taking ↦ key ∈ taking.2).map Prod.fst

theorem visit_keys (t : TerminalKeys Scalar) (v : Visit) :
    (t.visit v).2.1 = (t.queued v.items).polled v.now := by
  unfold visit
  by_cases h : none ∈ (t.queued v.items).queue
  · rw [poll_of_mem _ _ h]
  · rw [poll_of_not_mem _ _ h]

theorem afterVisits_concat (t : TerminalKeys Scalar) (visits : List Visit) (v : Visit) :
    t.afterVisits (visits ++ [v]) = ((t.afterVisits visits).queued v.items).polled v.now := by
  unfold afterVisits
  rw [List.foldl_concat]
  exact visit_keys _ v

theorem takings_concat (t : TerminalKeys Scalar) (visits : List Visit) (v : Visit) :
    t.takings (visits ++ [v]) =
      t.takings visits ++ [(v.now, taken ((t.afterVisits visits).queue ++ v.items))] := by
  induction visits generalizing t with
  | nil => rfl
  | cons first rest ih => exact congrArg (_ :: ·) (ih _)

theorem lastTaken?_concat (takings : List (Float × List Key)) (now : Float) (keys : List Key) :
    lastTaken? (takings ++ [(now, keys)]) key =
      if key ∈ keys then some now else lastTaken? takings key := by
  unfold lastTaken?
  rw [List.reverse_concat, List.find?_cons]
  by_cases hkey : key ∈ keys <;> simp [hkey]

/-- **The time kept for a key** is a fifth of a second after the last poll that took it, and zero if
there was none. -/
theorem get_heldUntil_afterVisits (keymap : Keymap) (visits : List Visit) (key : Key) :
    ((start keymap).afterVisits visits).heldUntil.get key =
      match lastTaken? ((start keymap).takings visits) key with
      | some time => .real (time + 0.2)
      | none => .real 0 := by
  induction visits using List.reverseRecOn with
  | nil => exact Nibble.get_replicate ..
  | append_singleton visits v ih =>
    rw [afterVisits_concat, takings_concat, lastTaken?_concat]
    unfold polled
    rw [get_holdAll]
    show (if key ∈ taken (((start keymap).afterVisits visits).queue ++ v.items) then _ else _) = _
    split
    · rfl
    · exact ih

/-- **What a terminal's polls make of the keys typed.** The poll that comes last after any run of
polls, at times in any order, succeeds, and asks to quit exactly if there is a quit mark in the
queue. Then the keypad is left alone, the items in front of the mark were taken and those behind it
stay. Otherwise all items were taken and the queue is empty, and a key is held exactly if some poll
up to this one took it and the last one that did was less than a fifth of a second ago. The marks of
the keys held stay and those of all others go. -/
theorem polls_follow_typing (keymap : Keymap) (earlier : List Visit) (last : Visit)
    (htime : 0 ≤ last.now) :
    let queue := ((start keymap).afterVisits earlier).queue ++ last.items
    ∃ quit keys keypad,
      ((start keymap).afterVisits earlier).visit last = (.ok quit, keys, keypad) ∧
      (quit = true ↔ none ∈ queue) ∧
      (quit = true → keypad = last.keypad ∧
        queue = (taken queue).map some ++ none :: keys.queue) ∧
      (quit = false → queue = (taken queue).map some ∧ keys.queue = [] ∧ ∀ key,
        (keypad.isDown key = true ↔
          ∃ time, lastTaken? ((start keymap).takings (earlier ++ [last])) key = some time ∧
            last.now < time + 0.2) ∧
        keypad.isLatched key = (last.keypad.isLatched key && keypad.isDown key)) := by
  intro queue
  by_cases hquits : none ∈ queue
  · refine ⟨true, _, _, poll_of_mem _ _ hquits, iff_of_true rfl hquits, fun _ ↦ ⟨rfl, ?_⟩, nofun⟩
    exact eq_taken_append_left hquits
  · refine ⟨false, _, _, poll_of_not_mem _ _ hquits, iff_of_false Bool.false_ne_true hquits, nofun,
      fun _ ↦ ⟨eq_taken hquits, left_eq_nil hquits, fun key ↦ ?_⟩⟩
    have hkey := get_heldUntil_afterVisits keymap (earlier ++ [last]) key
    rw [afterVisits_concat] at hkey
    rw [isLatched_apply, isDown_apply]
    refine ⟨?_, rfl⟩
    unfold holds
    rw [hkey]
    rcases lastTaken? ((start keymap).takings (earlier ++ [last])) key with - | time
    · refine iff_of_false (fun hheld ↦ Binary64.not_lt_zero_of_le htime (of_decide_eq_true hheld)) ?_
      simp
    · simp only [Option.some_inj, exists_eq_left']
      exact decide_eq_true_iff

/-- Three polls, of which the first finds a quit mark. It takes key `3`, the second takes key `5`
that stood behind the mark, and at the third, which finds both held and marked, only key `5` was
taken less than a fifth of a second ago. -/
theorem polls_follow_typing_stale :
    ∃ keymap, Keymap.parse true Keymap.usual = .ok keymap ∧ (0 : Float) ≤ 1.25 ∧ ∃ keys keypad,
      ((start keymap).afterVisits
          [⟨[some 3, none, some 5], .released, 1⟩, ⟨[], .released, 1.125⟩]).visit
          ⟨[], ((Keypad.released.press 3).press 5).latch, 1.25⟩ =
        (.ok false, keys, keypad) ∧
      (keypad.isDown 3 = false ∧ keypad.isLatched 3 = false) ∧
      (keypad.isDown 5 = true ∧ keypad.isLatched 5 = true) := by
  obtain ⟨keymap, hparse⟩ : ∃ keymap, Keymap.parse true Keymap.usual = .ok keymap := ⟨_, rfl⟩
  have htime : (0 : Float) ≤ 1.25 := by decide
  obtain ⟨quit, keys, keypad, hvisit, hquit, -, hheld⟩ := polls_follow_typing keymap
    [⟨[some 3, none, some 5], .released, 1⟩, ⟨[], .released, 1.125⟩]
    ⟨[], ((Keypad.released.press 3).press 5).latch, 1.25⟩ htime
  obtain rfl : quit = false := Bool.eq_false_iff.2 fun h ↦ by
    cases hquit.1 h
  obtain ⟨hthree, hmark⟩ := (hheld rfl).2.2 3
  obtain ⟨hfive, hmarked⟩ := (hheld rfl).2.2 5
  have hdown : keypad.isDown 5 = true := hfive.2 ⟨1.125, rfl, by decide⟩
  have hup : keypad.isDown 3 = false := Bool.eq_false_iff.2 fun h ↦ by
    obtain ⟨time, htaken, hlate⟩ := hthree.1 h
    obtain rfl : 1 = time := Option.some.inj htaken
    exact absurd hlate (by decide)
  refine ⟨keymap, hparse, htime, keys, keypad, hvisit, ⟨hup, ?_⟩, hdown, ?_⟩
  · rw [hmark, hup, Bool.and_false]
  · rw [hmarked, hdown]
    rfl

end TerminalKeys

end ChipEight
