import ChipEight.Proofs.Display.Flips
import ChipEight.Proofs.Display.Sprite

/-!
# Sprites on the usual display

On a display of 64 columns and 32 rows a sprite of at most 32 rows has room without overlapping
itself, wherever it is drawn: it is 8 columns wide, and coordinates wrap around at both sides. So no
two of its bits fall on the same pixel (`nodup_positions`), and drawing is described pixel by pixel
by what the sprite covers: exactly the covered pixels are flipped (`isLit_drawn`), and a hit is
reported if one of them was lit (`drawn_hit_iff`).
-/

namespace ChipEight

/-- A bit of a sprite lies over the pixel in a column and a row, if the sprite's left upper corner
lies at two coordinates. -/
def Sprite.Covers (sprite : Sprite) (x y column row : Nat) : Prop :=
  ∃ cell ∈ sprite.cells, column = (x + cell.1) % 64 ∧ row = (y + cell.2) % 32

namespace Display

variable {d : Display} {sprite : Sprite} {x y column row : Nat}

/-- Where the pixel at two coordinates is held: row by row, after the coordinates have wrapped. -/
theorem position_eq (h : SameSize usual d) (column row : Nat) :
    d.position column row = column % 64 + 64 * (row % 32) := by
  have hwidth : d.width = 64 := h.width
  have hheight : d.height = 32 := h.height
  rw [position, hwidth, hheight, Int.fmod_eq_emod_of_nonneg _ (by decide),
    Int.fmod_eq_emod_of_nonneg _ (by decide), if_neg (by omega)]
  omega

/-- Where the bits of a sprite fall. -/
def positions (d : Display) (sprite : Sprite) (x y : Nat) : List Nat :=
  sprite.cells.map fun (column, row) ↦ d.position (x + column) (y + row)

theorem drawn_eq (d : Display) (sprite : Sprite) (x y : Nat) :
    d.drawn x y sprite =
      ((d.flipAll (d.positions sprite x y)).1,
        { (d.flipAll (d.positions sprite x y)).2 with dirty := true }) :=
  rfl

/-- No two bits of a sprite fall on the same pixel. -/
theorem nodup_positions (h : SameSize usual d) (hrows : sprite.length ≤ 32) :
    (d.positions sprite x y).Nodup := by
  refine List.Nodup.map_on ?_ (Sprite.nodup_cells sprite)
  rintro ⟨c, r⟩ hcell ⟨c', r'⟩ hcell' heq
  obtain ⟨hc, b, hr, -⟩ := Sprite.mem_cells.1 hcell
  obtain ⟨hc', b', hr', -⟩ := Sprite.mem_cells.1 hcell'
  have hr := (List.getElem?_eq_some_iff.1 hr).1
  have hr' := (List.getElem?_eq_some_iff.1 hr').1
  change d.position ((x : Int) + c) (y + r) = d.position ((x : Int) + c') (y + r') at heq
  have hposition (c r : Nat) : d.position ((x : Int) + c) (y + r) = _ :=
    position_eq h (x + c) (y + r)
  rw [hposition, hposition] at heq
  -- The columns agree modulo 64 and the rows modulo 32; there are 8 columns and at most 32 rows.
  rw [Prod.mk.injEq]
  omega

/-- A pixel is among those that a sprite's bits fall on exactly if the sprite covers it. -/
theorem mem_positions (h : SameSize usual d) (hcolumn : column < 64) :
    column + 64 * row ∈ d.positions sprite x y ↔ sprite.Covers x y column row := by
  have hposition (c r : Nat) : d.position ((x : Int) + c) (y + r) = _ :=
    position_eq h (x + c) (y + r)
  rw [positions, List.mem_map]
  refine exists_congr fun (c, r) ↦ and_congr_right fun _ ↦ ?_
  show d.position ((x : Int) + c) (y + r) = column + 64 * row ↔
    column = (x + c) % 64 ∧ row = (y + r) % 32
  rw [hposition]
  omega

/-- **Drawing flips exactly the covered pixels.** -/
theorem isLit_drawn (h : SameSize usual d) (hrows : sprite.length ≤ 32) (hcolumn : column < 64)
    (hrow : row < 32) :
    (d.drawn x y sprite).2.isLit (column + 64 * row) ≠ d.isLit (column + 64 * row) ↔
      sprite.Covers x y column row := by
  have hsize : column + 64 * row < d.pixels.size := by
    have hpixels : d.pixels.size = 2048 := h.pixels.trans Array.size_replicate
    omega
  rw [drawn_eq, ← mem_positions h hcolumn]
  exact isLit_flipAll_of_nodup (nodup_positions h hrows) hsize

/-- **Drawing reports a hit** if some covered pixel was lit. -/
theorem drawn_hit_iff (h : SameSize usual d) (hrows : sprite.length ≤ 32) :
    (d.drawn x y sprite).1 = true ↔
      ∃ column < 64, ∃ row < 32, sprite.Covers x y column row ∧
        d.isLit (column + 64 * row) = true := by
  rw [drawn_eq, flipAll_hit_iff_of_nodup (nodup_positions h hrows)]
  constructor
  · rintro ⟨q, hmem, hlit⟩
    have hsize : q < 2048 := (lt_size_of_isLit hlit).trans_eq (h.pixels.trans Array.size_replicate)
    have hq : q % 64 + 64 * (q / 64) = q := Nat.mod_add_div q 64
    refine ⟨q % 64, Nat.mod_lt q (by decide), q / 64, by omega, ?_, by rwa [hq]⟩
    rw [← mem_positions h (Nat.mod_lt q (by decide)), hq]
    exact hmem
  · rintro ⟨column, hcolumn, row, hrow, hcovers, hlit⟩
    exact ⟨_, (mem_positions h hcolumn).2 hcovers, hlit⟩

end Display

end ChipEight
