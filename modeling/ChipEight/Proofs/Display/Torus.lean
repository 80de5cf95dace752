import ChipEight.Proofs.Display.Flips
import ChipEight.Proofs.Display.Sprite
import Mathlib.Data.Finset.Card
import Mathlib.Data.Finset.Prod

/-!
# Sprites on a torus

Coordinates wrap around both sides of a display, so a sprite that is wider or taller than the
display lies over itself, and a pixel can come up many times while it is drawn. What drawing does is
told by how many set bits fall on each pixel, `Sprite.hitCount`: a pixel changes by the parity of
that number, and a hit is reported if some pixel, counted as one if it is lit, and the bits on it
make two (`draw_on_torus`).

The displays concerned are the `Proper` ones, which have a column and a row. On them, coordinates
name the same pixel exactly if they agree modulo the sides (`position_eq_iff`), so the bits that
fall on a pixel are the positions that drawing flips there (`count_positions`).
-/

namespace ChipEight

/-- How many set bits of a sprite fall on the pixel in a column and a row of a torus, if the
sprite's left upper corner lies at two coordinates. The bits are counted by their columns and rows
in the sprite. -/
def Sprite.hitCount (sprite : Sprite) (width height x y column row : Int) : Nat :=
  Finset.card {cell ∈ Finset.range 8 ×ˢ Finset.range sprite.length |
    (sprite.getD cell.2 0).toNat &&& (0x80 >>> cell.1) ≠ 0 ∧
      (x + cell.1) % width = column ∧ (y + cell.2) % height = row}

namespace Display

variable {d e : Display} {x y column row : Int} {sprite : Sprite}

/-- A display with at least one column and one row. -/
structure Proper (d : Display) : Prop where
  width : 1 ≤ d.width
  height : 1 ≤ d.height

/-! ### Positions -/

theorem Proper.not_flat (h : d.Proper) : ¬ d.Flat := by
  have hwidth := h.width
  have hheight := h.height
  rintro (hflat | hflat) <;> omega

/-- Where the pixel at two coordinates is held: row by row, after the coordinates have wrapped. -/
theorem Proper.position_eq (h : d.Proper) (x y : Int) :
    (d.position x y : Int) = x % d.width + y % d.height * d.width := by
  have hwidth := h.width
  have hheight := h.height
  have hcolumn := Int.emod_nonneg x (by omega : d.width ≠ 0)
  have hrow := Int.mul_nonneg (Int.emod_nonneg y (by omega : d.height ≠ 0)) (by omega : 0 ≤ d.width)
  rw [position, Int.fmod_eq_emod_of_nonneg _ (by omega), Int.fmod_eq_emod_of_nonneg _ (by omega),
    if_neg (by omega), Int.toNat_of_nonneg (by omega)]

/-- A position in a row-by-row order is a column and a row in one way only. -/
theorem column_row_unique {width column row column' row' : Int} (hcolumn : 0 ≤ column)
    (hlt : column < width) (hcolumn' : 0 ≤ column') (hlt' : column' < width) :
    column + row * width = column' + row' * width ↔ column = column' ∧ row = row' := by
  constructor
  · intro h
    have hmod := congrArg (· % width) h
    simp only [Int.add_mul_emod_self_right, Int.emod_eq_of_lt hcolumn hlt,
      Int.emod_eq_of_lt hcolumn' hlt'] at hmod
    subst hmod
    exact ⟨rfl, Int.eq_of_mul_eq_mul_right (by omega) (by omega : row * width = row' * width)⟩
  · rintro ⟨rfl, rfl⟩
    rfl

/-- **Coordinates name the same pixel** exactly if they agree modulo the sides. -/
theorem Proper.position_eq_iff (h : d.Proper) {x y x' y' : Int} :
    d.position x y = d.position x' y' ↔
      x % d.width = x' % d.width ∧ y % d.height = y' % d.height := by
  have hwidth := h.width
  rw [← Int.ofNat_inj, h.position_eq, h.position_eq]
  exact column_row_unique (Int.emod_nonneg _ (by omega)) (Int.emod_lt_of_pos _ (by omega))
    (Int.emod_nonneg _ (by omega)) (Int.emod_lt_of_pos _ (by omega))

/-- Coordinates name pixels of the display. -/
theorem Proper.position_lt (h : d.Proper) (x y : Int) : d.position x y < d.pixels.size := by
  have hwidth := h.width
  have hheight := h.height
  have hcolumn := Int.emod_lt_of_pos x (by omega : 0 < d.width)
  have hrow := Int.emod_lt_of_pos y (by omega : 0 < d.height)
  have hrows : (y % d.height + 1) * d.width ≤ d.height * d.width :=
    Int.mul_le_mul_of_nonneg_right (by omega) (by omega)
  rw [← Int.ofNat_lt, h.position_eq, d.size_pixels, Int.mul_comm d.width]
  rw [Int.add_mul, Int.one_mul] at hrows
  omega

/-- Every pixel has a column and a row. -/
theorem Proper.exists_position_eq (h : d.Proper) {q : Nat} (hq : q < d.pixels.size) :
    ∃ column row, (0 ≤ column ∧ column < d.width) ∧ (0 ≤ row ∧ row < d.height) ∧
      d.position column row = q := by
  have hwidth : 0 < d.width := h.width
  have hsize : (q : Int) < d.height * d.width := by
    rw [Int.mul_comm, ← d.size_pixels]
    exact Int.ofNat_lt.2 hq
  have hcolumn := Int.emod_nonneg q (Int.ne_of_gt hwidth)
  have hlt := Int.emod_lt_of_pos q hwidth
  have hrow := Int.ediv_nonneg (Int.natCast_nonneg q) (Int.le_of_lt hwidth)
  have hrowlt := Int.ediv_lt_of_lt_mul hwidth hsize
  refine ⟨q % d.width, q / d.width, ⟨hcolumn, hlt⟩, ⟨hrow, hrowlt⟩, ?_⟩
  rw [← Int.ofNat_inj, h.position_eq, Int.emod_eq_of_lt hcolumn hlt,
    Int.emod_eq_of_lt hrow hrowlt]
  exact Int.emod_add_ediv_mul q d.width

theorem Proper.of_sameSize (h : d.Proper) (hsize : SameSize d e) : e.Proper where
  width := hsize.width ▸ h.width
  height := hsize.height ▸ h.height

/-- The pixel at two coordinates is there. -/
theorem Proper.pixel_eq (h : d.Proper) (x y : Int) :
    d.pixel x y = .ok (d.isLit (d.position x y)) :=
  if_neg h.not_flat

/-! ### Bits on a pixel -/

/-- **The bits that fall on a pixel** are the positions that drawing flips there. -/
theorem Proper.count_positions (h : d.Proper) (hcolumn : 0 ≤ column ∧ column < d.width)
    (hrow : 0 ≤ row ∧ row < d.height) :
    (sprite.cells.map fun (c, r) ↦ d.position (x + c) (y + r)).count (d.position column row) =
      sprite.hitCount d.width d.height x y column row := by
  have hfalls (c r : Nat) : d.position (x + c) (y + r) = d.position column row ↔
      (x + c) % d.width = column ∧ (y + r) % d.height = row := by
    rw [h.position_eq_iff, Int.emod_eq_of_lt hcolumn.1 hcolumn.2, Int.emod_eq_of_lt hrow.1 hrow.2]
  rw [List.count_eq_countP, List.countP_map, List.countP_eq_length_filter,
    ← List.toFinset_card_of_nodup ((Sprite.nodup_cells sprite).filter _), Sprite.hitCount]
  congr 1
  ext ⟨c, r⟩
  rw [List.mem_toFinset, List.mem_filter, Function.comp_apply, beq_iff_eq, hfalls,
    Sprite.mem_cells_iff_and_mask, Finset.mem_filter, Finset.mem_product, Finset.mem_range,
    Finset.mem_range, and_assoc]

/-- Drawing flips positions in turn, each of them as often as bits fall on its pixel. -/
theorem Proper.exists_positions (h : d.Proper) (x y : Int) (sprite : Sprite) :
    ∃ positions, d.drawn x y sprite =
        ((d.flipAll positions).1, { (d.flipAll positions).2 with dirty := true }) ∧
      ∀ column row, (0 ≤ column ∧ column < d.width) → (0 ≤ row ∧ row < d.height) →
        positions.count (d.position column row) =
          sprite.hitCount d.width d.height x y column row :=
  ⟨_, rfl, fun _ _ hcolumn hrow ↦ h.count_positions hcolumn hrow⟩

/-! ### Drawing -/

/-- **Sprites on a torus.** Drawing changes each pixel by the parity of the number of bits that fall
on it, and reports a hit if some pixel, counted as one if it is lit, and the bits on it make two. -/
theorem draw_on_torus (h : d.Proper) (x y : Int) (sprite : Sprite) :
    ∃ hit drawn, d.draw x y sprite = .ok (hit, drawn) ∧ d.SameSize drawn ∧ drawn.dirty = true ∧
      (∀ column row, (0 ≤ column ∧ column < d.width) → (0 ≤ row ∧ row < d.height) →
        ∃ before after, d.pixel column row = .ok before ∧ drawn.pixel column row = .ok after ∧
          after.toNat =
            (before.toNat + sprite.hitCount d.width d.height x y column row) % 2) ∧
      (hit = true ↔ ∃ column row, (0 ≤ column ∧ column < d.width) ∧ (0 ≤ row ∧ row < d.height) ∧
        ∃ before, d.pixel column row = .ok before ∧
          2 ≤ before.toNat + sprite.hitCount d.width d.height x y column row) := by
  have hdraw : d.draw x y sprite = .ok (d.drawn x y sprite) := by
    rw [draw_eq, if_neg fun hflat ↦ h.not_flat hflat.1]
  obtain ⟨positions, hdrawn, hcount⟩ := h.exists_positions x y sprite
  have hsize := sameSize_drawn d x y sprite
  rw [hdrawn] at hdraw hsize
  refine ⟨_, _, hdraw, hsize, rfl, ?_, ?_⟩
  · intro column row hcolumn hrow
    refine ⟨_, _, h.pixel_eq column row, (h.of_sameSize hsize).pixel_eq column row, ?_⟩
    rw [hsize.position_eq, ← hcount column row hcolumn hrow]
    exact toNat_isLit_flipAll (h.position_lt column row)
  · rw [flipAll_hit_iff]
    constructor
    · rintro ⟨q, hq, -, htwo⟩
      obtain ⟨column, row, hcolumn, hrow, rfl⟩ := h.exists_position_eq hq
      rw [hcount column row hcolumn hrow] at htwo
      exact ⟨column, row, hcolumn, hrow, _, h.pixel_eq column row, htwo⟩
    · rintro ⟨column, row, hcolumn, hrow, before, hbefore, htwo⟩
      obtain rfl := Except.ok.inj ((h.pixel_eq column row).symm.trans hbefore)
      rw [← hcount column row hcolumn hrow] at htwo
      -- A lit pixel counts as one only, so a bit falls on the pixel.
      have hone := Bool.toNat_le (d.isLit (d.position column row))
      exact ⟨_, h.position_lt column row, by omega, htwo⟩

/-- A display of three columns and one row, whose first pixel is lit. -/
def narrow : Display :=
  ⟨3, 1, #[true, false, false], false, rfl⟩

/-- A sprite of two rows of eight bits on a display of three columns and one row, whose first pixel
is lit: it lies over itself in both directions, and over every pixel more than once. -/
theorem draw_on_torus_overlapping :
    Proper narrow ∧
      Sprite.hitCount [0xFF, 0x81] 3 1 (-1) 5 0 0 = 4 ∧
      ∃ hit drawn, draw narrow (-1) 5 [0xFF, 0x81] = .ok (hit, drawn) ∧
        (∃ after, drawn.pixel 0 0 = .ok after ∧ after.toNat = (1 + 4) % 2) ∧ hit = true := by
  have h : Proper narrow := ⟨by decide, by decide⟩
  have hfour : Sprite.hitCount [0xFF, 0x81] 3 1 (-1) 5 0 0 = 4 := by decide +kernel
  obtain ⟨hit, drawn, hdraw, -, -, hpixels, hhit⟩ := draw_on_torus h (-1) 5 [0xFF, 0x81]
  obtain ⟨before, after, hbefore, hafter, hparity⟩ :=
    hpixels 0 0 ⟨by decide, by decide⟩ ⟨by decide, by decide⟩
  obtain rfl : true = before := Except.ok.inj hbefore
  refine ⟨h, hfour, hit, drawn, hdraw, ⟨after, hafter, ?_⟩, hhit.2 ?_⟩
  · rw [hparity]
    show (1 + Sprite.hitCount [0xFF, 0x81] 3 1 (-1) 5 0 0) % 2 = _
    rw [hfour]
  · refine ⟨0, 0, ⟨by decide, by decide⟩, ⟨by decide, by decide⟩, true, hbefore, ?_⟩
    show 2 ≤ 1 + Sprite.hitCount [0xFF, 0x81] 3 1 (-1) 5 0 0
    rw [hfour]
    decide

end Display

end ChipEight
