import ChipEight.Trace
import ChipEight.Proofs.Text.Hex

/-!
# A crash dump loses nothing

A dump runs numbers of different widths together. What tells them apart is what stands behind each
of them: a field of the line ends at the first blank, since no number holds one, and the line ends
at the last end of a line in the text, since the call stack holds none. So a dump is taken apart
from left to right, up to the instruction, and the call stack address by address
(`items_injective`); an empty stack has a text of its own.

Nothing is asked of the numbers or of the text of the instruction: `dump_eq_iff` holds of addresses
below zero and of an instruction that runs over several lines as well.
-/

namespace ChipEight.Trace

variable {stop : Char} {a b s t separator : List Char}

/-! ### Texts that end at a character -/

/-- Two texts that hold no stop, each with something behind it that is empty or begins with the
stop, end at the same place. -/
theorem append_inj_of_stop (ha : stop ∉ a) (hb : stop ∉ b) (hs : ∀ c ∈ s.head?, c = stop)
    (ht : ∀ c ∈ t.head?, c = stop) (h : a ++ s = b ++ t) : a = b ∧ s = t := by
  obtain ⟨rest, rfl, rfl⟩ | ⟨rest, rfl, rfl⟩ := List.append_eq_append_iff.1 h
  · match rest with
    | [] => simp
    | c :: rest => exact absurd (hs c rfl) (by rintro rfl; simp at hb)
  · match rest with
    | [] => simp
    | c :: rest => exact absurd (ht c rfl) (by rintro rfl; simp at ha)

/-- A field of a line ends where the separator behind it begins. -/
theorem field_inj (hseparator : separator.head? = some ' ') (ha : ' ' ∉ a) (hb : ' ' ∉ b)
    (h : a ++ (separator ++ s) = b ++ (separator ++ t)) : a = b ∧ s = t := by
  have hstop (rest : List Char) : ∀ c ∈ (separator ++ rest).head?, c = ' ' := by
    intro c hc
    rw [List.head?_append, hseparator] at hc
    exact (Option.some.inj hc).symm
  obtain ⟨hfields, hrest⟩ := append_inj_of_stop ha hb (hstop s) (hstop t) h
  exact ⟨hfields, List.append_cancel_left hrest⟩

/-- A text with a stop in it is known by what stands before and behind the last one. -/
theorem last_inj (hs : stop ∉ s) (ht : stop ∉ t) (h : a ++ stop :: s = b ++ stop :: t) :
    a = b ∧ s = t := by
  have hreverse := congrArg List.reverse h
  simp only [List.reverse_append, List.reverse_cons, List.append_assoc, List.singleton_append]
    at hreverse
  obtain ⟨hback, hfront⟩ := append_inj_of_stop (by simpa using hs) (by simpa using ht)
    (by simp) (by simp) hreverse
  exact ⟨List.reverse_inj.1 (List.cons.inj hfront).2, List.reverse_inj.1 hback⟩

/-! ### The line -/

theorem blank_not_mem_padded (width : Nat) (n : Int) : ' ' ∉ (Hex.padded width n).toList :=
  Hex.not_mem_padded width n (by decide) (by decide)

/-- A number in a line is known by its field. -/
theorem number_inj {m n : Int} (width : Nat) (hseparator : separator.head? = some ' ')
    (h : (Hex.padded width m).toList ++ (separator ++ s) =
      (Hex.padded width n).toList ++ (separator ++ t)) : m = n ∧ s = t := by
  obtain ⟨hfields, hrest⟩ :=
    field_inj hseparator (blank_not_mem_padded width m) (blank_not_mem_padded width n) h
  exact ⟨Hex.padded_injective width (String.toList_inj.1 hfields), hrest⟩

theorem bytesText_injective : Function.Injective bytesText := by
  intro v w h
  exact Vector.toList_inj.1 (List.reverse_inj.1 (Hex.bytes_injective h))

theorem blank_not_mem_bytesText (v : Vector UInt8 16) : ' ' ∉ (bytesText v).toList :=
  Hex.not_mem_bytes v.toList.reverse (by decide) (by decide)

/-- The registers that a line shows, with the opcode and the instruction. -/
structure SameLine (r r' : Registers) (opcode opcode' : Int) (text text' : String) : Prop where
  bytes : r.v = r'.v
  index : r.i = r'.i
  delay : r.dt = r'.dt
  sound : r.st = r'.st
  counter : r.pc = r'.pc
  opcode : opcode = opcode'
  text : text = text'

variable {r r' : Registers} {opcode opcode' : Int} {text text' : String}

theorem sameLine_of_line_eq (h : line r opcode text = line r' opcode' text') :
    SameLine r r' opcode opcode' text text' := by
  have hchars := congrArg String.toList h
  unfold line at hchars
  simp only [String.toList_append, List.append_assoc] at hchars
  have hfields := List.append_cancel_left hchars
  obtain ⟨hv, hfields⟩ :=
    field_inj rfl (blank_not_mem_bytesText _) (blank_not_mem_bytesText _) hfields
  obtain ⟨hi, hfields⟩ := number_inj 4 rfl hfields
  obtain ⟨hdt, hfields⟩ := number_inj 2 rfl hfields
  obtain ⟨hst, hfields⟩ := number_inj 2 rfl hfields
  obtain ⟨hpc, hfields⟩ := number_inj 3 rfl hfields
  obtain ⟨hop, htext⟩ := number_inj 4 rfl hfields
  exact {
    bytes := bytesText_injective (String.toList_inj.1 hv)
    index := hi
    delay := hdt
    sound := hst
    counter := hpc
    opcode := hop
    text := String.toList_inj.1 htext }

/-! ### The call stack -/

/-- The text of one address on the call stack. -/
def itemText (address : Int) : String :=
  " 0x" ++ Hex.padded 3 address

/-- The characters of the addresses of a call stack that is not empty. -/
def itemsChars (items : List Int) : List Char :=
  items.flatMap fun address ↦ (itemText address).toList

theorem itemsChars_cons (address : Int) (rest : List Int) : itemsChars (address :: rest) =
    ' ' :: '0' :: 'x' :: ((Hex.padded 3 address).toList ++ itemsChars rest) := by
  simp [itemsChars, itemText]

/-- What stands behind an address is nothing or begins with a blank. -/
theorem head?_itemsChars (items : List Int) : ∀ c ∈ (itemsChars items).head?, c = ' ' := by
  match items with
  | [] => simp [itemsChars]
  | address :: rest => simp [itemsChars_cons, eq_comm]

/-- **The addresses of a call stack can be told apart**, whatever the width of each. -/
theorem items_injective : Function.Injective itemsChars := by
  intro items
  induction items with
  | nil =>
    intro items' h
    match items' with
    | [] => rfl
    | address :: rest =>
      rw [itemsChars_cons] at h
      exact absurd h.symm (List.cons_ne_nil _ _)
  | cons address rest ih =>
    intro items' h
    match items' with
    | [] =>
      rw [itemsChars_cons] at h
      exact absurd h (List.cons_ne_nil _ _)
    | address' :: rest' =>
      rw [itemsChars_cons, itemsChars_cons] at h
      simp only [List.cons.injEq, true_and] at h
      obtain ⟨haddress, hrest⟩ := append_inj_of_stop (blank_not_mem_padded 3 address)
        (blank_not_mem_padded 3 address') (head?_itemsChars rest) (head?_itemsChars rest') h
      rw [Hex.padded_injective 3 (String.toList_inj.1 haddress), ih hrest]

/-- The characters of a call stack. -/
theorem toList_stackText (stack : CallStack) : (stackText stack).toList =
    if stack.frames = [] then " (Empty)".toList else itemsChars stack.items := by
  rw [stackText]
  rcases hframes : stack.frames with - | ⟨address, rest⟩
  · rfl
  · simp [String.toList_join, itemsChars, itemText, List.flatMap_map]

/-- The addresses of a call stack are not the text of an empty one, which goes on with a bracket. -/
theorem itemsChars_ne_empty (items : List Int) : itemsChars items ≠ " (Empty)".toList := by
  match items with
  | [] => decide
  | address :: rest =>
    rw [itemsChars_cons]
    intro h
    have hsecond : '0' = '(' := congrArg (List.getD · 1 ' ') h
    exact absurd hsecond (by decide)

theorem frames_eq_of_stackText_eq {stack stack' : CallStack}
    (h : stackText stack = stackText stack') : stack.frames = stack'.frames := by
  have hchars := congrArg String.toList h
  rw [toList_stackText, toList_stackText] at hchars
  split at hchars
  · rename_i hempty
    split at hchars
    · rename_i hempty'
      rw [hempty, hempty']
    · exact absurd hchars.symm (itemsChars_ne_empty _)
  · split at hchars
    · exact absurd hchars (itemsChars_ne_empty _)
    · exact List.reverse_inj.1 (items_injective hchars)

/-- The text of a call stack is one line. -/
theorem newline_not_mem_stackText (stack : CallStack) : '\n' ∉ (stackText stack).toList := by
  rw [toList_stackText]
  split
  · decide
  · intro hmem
    obtain ⟨address, -, hitem⟩ := List.mem_flatMap.1 hmem
    have hpadded : '\n' ∉ (Hex.padded 3 address).toList :=
      Hex.not_mem_padded 3 address (by decide) (by decide)
    simp [itemText, hpadded] at hitem

/-! ### The dump -/

theorem toList_dump (r : Registers) (opcode : Int) (text : String) : (dump r opcode text).toList =
    (line r opcode text).toList ++ '\n' :: ("Stack:".toList ++ (stackText r.stack).toList) := by
  simp [dump]

/-- **A crash dump loses nothing.** Two dumps have the same text exactly if they show the same: all
sixteen byte registers, the index register, the timers, the program counter, the opcode, the
instruction and every address on the call stack, in order. -/
theorem dump_eq_iff : dump r opcode text = dump r' opcode' text' ↔
    r.v = r'.v ∧ r.i = r'.i ∧ r.dt = r'.dt ∧ r.st = r'.st ∧ r.pc = r'.pc ∧ opcode = opcode' ∧
      text = text' ∧ r.stack.items = r'.stack.items := by
  constructor
  · intro h
    have hchars := congrArg String.toList h
    rw [toList_dump, toList_dump] at hchars
    have hone (stack : CallStack) : '\n' ∉ "Stack:".toList ++ (stackText stack).toList := by
      rw [List.mem_append, not_or]
      exact ⟨by decide, newline_not_mem_stackText stack⟩
    obtain ⟨hline, hstack⟩ := last_inj (hone r.stack) (hone r'.stack) hchars
    have hsame := sameLine_of_line_eq (String.toList_inj.1 hline)
    have hframes := frames_eq_of_stackText_eq
      (String.toList_inj.1 (List.append_cancel_left hstack))
    exact ⟨hsame.bytes, hsame.index, hsame.delay, hsame.sound, hsame.counter, hsame.opcode,
      hsame.text, congrArg List.reverse hframes⟩
  · rintro ⟨hv, hi, hdt, hst, hpc, hop, htext, hitems⟩
    have hframes : r.stack.frames = r'.stack.frames := List.reverse_inj.1 hitems
    unfold dump line stackText
    rw [hv, hi, hdt, hst, hpc, hop, htext, hitems, hframes]

end ChipEight.Trace
