import ChipEight.Proofs.Display.Covered
import ChipEight.Proofs.Machine.Action
import ChipEight.Proofs.Registers.Access

/-!
# Drawing by the processor

The instruction `Dxyn` draws the sprite of `n` rows at the index register at the coordinates that
`Vx` and `Vy` hold. The coordinates are read before the flag is written, so nothing changes if one
of them is the flag register or if both are the same.

`Draws` is the whole effect, told by the state in front: the pixels that the sprite covers are
flipped, the flag tells whether one of them was lit, and all else but the program counter stays.
-/

namespace ChipEight.Processor

variable {s t : Processor} {x y : Reg} {rows : Nibble}

/-- A bit of the sprite at the index register lies over the pixel in a column and a row. -/
def Covers (s : Processor) (x y : Reg) (rows : Nibble) (column row : Nat) : Prop :=
  ∃ r < rows.val, ∃ c < 8,
    (s.memory.byteAt (s.registers.i.toNat + r)).toNat &&& (0x80 >>> c) ≠ 0 ∧
      column = ((s.reg x).toNat + c) % 64 ∧ row = ((s.reg y).toNat + r) % 32

/-- **What drawing does**, by the state in front of it. -/
structure Draws (s : Processor) (x y : Reg) (rows : Nibble) (t : Processor) : Prop where
  /-- Exactly the covered pixels are flipped. -/
  pixels : ∀ column < 64, ∀ row < 32,
    (t.display.isLit (column + 64 * row) ≠ s.display.isLit (column + 64 * row) ↔
      s.Covers x y rows column row)
  /-- The display keeps its size. -/
  size : s.display.SameSize t.display
  /-- The flag is one if a covered pixel was lit. -/
  hit : t.reg Reg.flag = 1 ↔ ∃ column < 64, ∃ row < 32, s.Covers x y rows column row ∧
    s.display.isLit (column + 64 * row) = true
  /-- The flag is zero if none was. -/
  miss : t.reg Reg.flag = 0 ↔ ¬ ∃ column < 64, ∃ row < 32, s.Covers x y rows column row ∧
    s.display.isLit (column + 64 * row) = true
  /-- The display is due to be shown. -/
  dirty : t.display.dirty = true
  /-- The program counter is at the following instruction. -/
  counter : t.registers.pc = s.registers.pc + 2
  /-- Every other register keeps its byte. -/
  registers : ∀ z ≠ Reg.flag, t.reg z = s.reg z
  memory : t.memory = s.memory
  index : t.registers.i = s.registers.i
  delay : t.registers.dt = s.registers.dt
  sound : t.registers.st = s.registers.st
  stack : t.registers.stack = s.registers.stack
  keypad : t.keypad = s.keypad
  waiting : t.waiting = s.waiting
  random : t.random = s.random

/-- Within the bounds the display has the usual size. -/
theorem Sound.usual (h : s.Sound) : Display.usual.SameSize s.display :=
  ⟨h.width, h.height, h.pixels.trans Array.size_replicate.symm⟩

/-- The sprite that an instruction draws. -/
def sprite (s : Processor) (rows : Nibble) : Sprite :=
  s.memory.block s.registers.i rows.val

/-- The sprite has the rows that memory holds at the index register. -/
theorem sprite_eq (hinside : ¬ s.memory.Outside s.registers.i rows.val) :
    s.sprite rows =
      (List.range rows.val).map fun r ↦ s.memory.byteAt (s.registers.i.toNat + r) :=
  Memory.block_eq_map hinside

/-- What the sprite covers, bit by bit. -/
theorem covers_sprite_iff (hinside : ¬ s.memory.Outside s.registers.i rows.val)
    (column row : Nat) :
    (s.sprite rows).Covers (s.reg x).toNat (s.reg y).toNat column row ↔
      s.Covers x y rows column row := by
  rw [sprite_eq hinside]
  constructor
  · rintro ⟨⟨c, r⟩, hcell, hcolumn, hrow⟩
    obtain ⟨hc, byte, hr, hbit⟩ := Sprite.mem_cells.1 hcell
    rw [List.getElem?_map, Option.map_eq_some_iff] at hr
    obtain ⟨r', hr', rfl⟩ := hr
    obtain ⟨hlt, rfl⟩ := List.getElem?_eq_some_iff.1 hr'
    rw [List.length_range] at hlt
    rw [List.getElem_range] at hbit
    exact ⟨r, hlt, c, hc, (Sprite.and_mask_ne_zero_iff _ hc).2 hbit, hcolumn, hrow⟩
  · rintro ⟨r, hr, c, hc, hbit, hcolumn, hrow⟩
    refine ⟨(c, r), Sprite.mem_cells.2 ⟨hc, _, ?_, (Sprite.and_mask_ne_zero_iff _ hc).1 hbit⟩,
      hcolumn, hrow⟩
    rw [List.getElem?_map, List.getElem?_range hr]
    rfl

/-- The report and the display that drawing the sprite yields. -/
def drawn (s : Processor) (x y : Reg) (rows : Nibble) : Bool × Display :=
  s.display.drawn (s.reg x).toNat (s.reg y).toNat (s.sprite rows)

/-- The state after a sprite was drawn. -/
def afterDraw (s : Processor) (x y : Reg) (rows : Nibble) : Processor :=
  { s with
    opcode := s.word
    display := (s.drawn x y rows).2
    registers := (s.registers.putFlag (s.drawn x y rows).1).advance }

/-- Within the bounds, a sprite that lies inside memory is drawn. -/
theorem step_draw (h : s.Sound) (hfetch : s.fetch = .ok (ChipEight.word 0xD x y rows))
    (hinside : ¬ s.memory.Outside s.registers.i rows.val) :
    s.step = (.ok .next, s.afterDraw x y rows) := by
  have hword := (fetch_eq_ok_iff.1 hfetch).2
  have hsides : ¬ (s.display.Flat ∧ (s.sprite rows).cells ≠ []) := by
    rintro ⟨hflat | hflat, -⟩
    · rw [h.width] at hflat
      cases hflat
    · rw [h.height] at hflat
      cases hflat
  have hdraw : s.display.draw (s.reg x).toNat (s.reg y).toNat (s.sprite rows) =
      .ok (s.drawn x y rows) :=
    (Display.draw_eq ..).trans (if_neg hsides)
  have hdone : execute { s with opcode := s.word } (.draw x y rows) = .ok (.next,
      { s with
        opcode := s.word
        display := (s.drawn x y rows).2
        registers := s.registers.putFlag (s.drawn x y rows).1 }) := by
    rw [execute_draw, drawSprite, if_neg hinside]
    show Except.map _ (s.display.draw (s.reg x).toNat (s.reg y).toNat (s.sprite rows)) = _
    rw [hdraw]
    rfl
  rw [hword] at hdone
  have hstep := step_of_execute (.draw x y rows) 0 hfetch hdone
  rw [hstep, afterDraw, hword]
  rfl

/-- **What the state after drawing is.** -/
theorem draws_afterDraw (h : s.Sound) (hinside : ¬ s.memory.Outside s.registers.i rows.val) :
    s.Draws x y rows (s.afterDraw x y rows) := by
  have hrows : (s.sprite rows).length ≤ 32 := by
    rw [sprite_eq hinside, List.length_map, List.length_range]
    omega
  have hcovers := covers_sprite_iff (s := s) (x := x) (y := y) hinside
  have hhit : (s.drawn x y rows).1 = true ↔ ∃ column < 64, ∃ row < 32,
      s.Covers x y rows column row ∧ s.display.isLit (column + 64 * row) = true := by
    rw [drawn, Display.drawn_hit_iff h.usual hrows]
    simp only [hcovers]
  have hflag : (s.afterDraw x y rows).reg Reg.flag = if (s.drawn x y rows).1 then 1 else 0 :=
    (Registers.get_putFlag ..).trans (if_pos rfl)
  constructor
  case pixels =>
    intro column hcolumn row hrow
    exact (Display.isLit_drawn h.usual hrows hcolumn hrow).trans (hcovers column row)
  case size => exact Display.sameSize_drawn ..
  case hit =>
    rw [hflag, ← hhit]
    split <;> simp [*]
  case miss =>
    rw [hflag, ← hhit]
    split <;> simp [*]
  case registers =>
    intro z hz
    exact (Registers.get_putFlag ..).trans (if_neg (Ne.symm hz))
  all_goals rfl

/-- **Drawing by the processor.** -/
theorem step_draws (h : s.Reached) (hfetch : s.fetch = .ok (ChipEight.word 0xD x y rows))
    (hinside : s.registers.i + rows.val ≤ 4096) :
    ∃ t, s.step = (.ok .next, t) ∧ s.Draws x y rows t := by
  have hmemory : ¬ s.memory.Outside s.registers.i rows.val := by
    have hindex := h.sound.index
    rw [Memory.Outside, h.sound.memory]
    omega
  exact ⟨_, step_draw h.sound hfetch hmemory, draws_afterDraw h.sound hmemory⟩

/-- A machine about to draw a glyph over the right edge, at coordinates that the flag holds. -/
def glyphAtEdge : Processor :=
  ((initial (Twister.ofSeed 1)).loaded [0x6F, 0x3E, 0xDF, 0xF5]).on .step

/-- The glyph is drawn, and the flag register loses its coordinate to the report. -/
theorem step_draws_glyphAtEdge :
    glyphAtEdge.fetch = .ok (ChipEight.word 0xD 0xF 0xF 0x5) ∧ glyphAtEdge.reg Reg.flag = 62 ∧
      ∃ t, glyphAtEdge.step = (.ok .next, t) ∧ glyphAtEdge.Draws 0xF 0xF 0x5 t := by
  have hstart : glyphAtEdge.fetch = .ok (ChipEight.word 0xD 0xF 0xF 0x5) ∧
      glyphAtEdge.reg Reg.flag = 62 ∧
      glyphAtEdge.registers.i + (0x5 : Nibble).val ≤ 4096 := by
    decide +kernel
  obtain ⟨hfetch, hflag, hinside⟩ := hstart
  have hreached : glyphAtEdge.Reached := (reached_loaded 1 _).on .step
  exact ⟨hfetch, hflag, step_draws hreached hfetch hinside⟩

end ChipEight.Processor
