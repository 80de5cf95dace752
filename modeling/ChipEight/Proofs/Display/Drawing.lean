import ChipEight.Display

/-!
# What drawing keeps

Drawing flips pixels in place, one after another. It fails only for want of a pixel to name, and a
display without pixels fails at the first bit of a sprite: so drawing that fails leaves the display
as it was, although each bit is drawn for itself (`drawSprite_eq`). It never changes the sides of a
display nor the number of its pixels (`sameSize_drawn`). What it yields does not depend on whether
the display was due to be shown (`draw_withDirty`).
-/

namespace ChipEight.Display

/-- Two displays have the same sides and the same number of pixels. -/
structure SameSize (d e : Display) : Prop where
  width : e.width = d.width
  height : e.height = d.height
  pixels : e.pixels.size = d.pixels.size

theorem SameSize.refl (d : Display) : SameSize d d := ⟨rfl, rfl, rfl⟩

theorem SameSize.symm {d e : Display} (h : SameSize d e) : SameSize e d :=
  ⟨h.width.symm, h.height.symm, h.pixels.symm⟩

theorem sameSize_clear (d : Display) : SameSize d d.clear :=
  ⟨rfl, rfl, Array.size_replicate⟩

theorem sameSize_flip (d : Display) (position : Nat) : SameSize d (d.flip position) :=
  ⟨rfl, rfl, Array.size_modify⟩

theorem SameSize.trans {d e f : Display} (h : SameSize d e) (h' : SameSize e f) :
    SameSize d f :=
  ⟨h'.width.trans h.width, h'.height.trans h.height, h'.pixels.trans h.pixels⟩

theorem SameSize.position_eq {d e : Display} (hsize : SameSize d e) (x y : Int) :
    e.position x y = d.position x y := by
  rw [position, position, hsize.width, hsize.height, hsize.pixels]

/-- Flips the pixels held at positions in turn and tells whether one of them was lit when its turn
came. -/
def flipAll (d : Display) (positions : List Nat) : Bool × Display :=
  positions.foldl (fun (hit, d) position ↦ (hit || d.isLit position, d.flip position)) (false, d)

theorem sameSize_flipAll (d : Display) (positions : List Nat) :
    SameSize d (d.flipAll positions).2 := by
  unfold flipAll
  generalize false = hit
  induction positions generalizing d hit with
  | nil => exact SameSize.refl d
  | cons position rest ih => exact (sameSize_flip d position).trans (ih (d.flip position) _)

/-- What drawing yields where there are pixels to name. -/
def drawn (d : Display) (x y : Int) (sprite : Sprite) : Bool × Display :=
  let flipped := d.flipAll
    (sprite.cells.map fun (column, row) ↦ d.position (x + column) (y + row))
  (flipped.1, { flipped.2 with dirty := true })

/-- Where there are pixels to name, cells are flipped by the positions that they have in front. -/
theorem flipCells_of_not_flat {d : Display} (h : ¬ d.Flat) (x y : Int) (cells : List (Nat × Nat)) :
    d.flipCells x y false cells =
      let flipped := d.flipAll
        (cells.map fun (column, row) ↦ d.position (x + column) (y + row))
      (.ok flipped.1, flipped.2) := by
  -- A flip keeps positions, but not the display, so both the display and the report are general.
  have hfold (e : Display) (hsize : SameSize d e) (hit : Bool) :
      e.flipCells x y hit cells =
        let flipped := (cells.map fun (column, row) ↦ d.position (x + column) (y + row)).foldl
          (fun (hit, d) position ↦ (hit || isLit d position, flip d position)) (hit, e)
        (.ok flipped.1, flipped.2) := by
    induction cells generalizing e hit with
    | nil => rfl
    | cons cell rest ih =>
      have hflip : e.flipPixel (x + cell.1) (y + cell.2) =
          .ok (e.isLit (d.position (x + cell.1) (y + cell.2)),
            e.flip (d.position (x + cell.1) (y + cell.2))) := by
        unfold flipPixel
        rw [if_neg (by rwa [Flat, hsize.width, hsize.height]), hsize.position_eq]
      unfold flipCells
      dsimp only
      rw [hflip]
      exact ih _ (hsize.trans (sameSize_flip e _)) _
  exact hfold d (.refl d) false

/-- **Drawing**, as one condition and one result. Where it fails, nothing was flipped. -/
theorem drawSprite_eq (d : Display) (x y : Int) (sprite : Sprite) :
    d.drawSprite x y sprite =
      if d.Flat ∧ sprite.cells ≠ [] then (.error .zeroDivisor, d)
      else (.ok (d.drawn x y sprite).1, (d.drawn x y sprite).2) := by
  unfold drawSprite drawn
  by_cases hflat : d.Flat
  · rcases hcells : sprite.cells with - | ⟨⟨column, row⟩, rest⟩
    · rw [if_neg fun h ↦ h.2 rfl]
      rfl
    · have hfails : d.flipPixel (x + column) (y + row) = .error .zeroDivisor := if_pos hflat
      rw [if_pos ⟨hflat, List.cons_ne_nil _ _⟩]
      unfold flipCells
      rw [hfails]
  · rw [flipCells_of_not_flat hflat, if_neg fun h ↦ hflat h.1]

/-- A drawing that nothing keeps from succeeding. -/
theorem draw_eq (d : Display) (x y : Int) (sprite : Sprite) :
    d.draw x y sprite =
      if d.Flat ∧ sprite.cells ≠ [] then .error .zeroDivisor else .ok (d.drawn x y sprite) := by
  unfold draw
  rw [drawSprite_eq]
  by_cases hfails : d.Flat ∧ sprite.cells ≠ []
  · rw [if_pos hfails, if_pos hfails]
  · rw [if_neg hfails, if_neg hfails]

/-- Flipping pixels does not look at whether the display is due to be shown. -/
theorem flipAll_withDirty (d : Display) (dirty : Bool) (positions : List Nat) :
    flipAll { d with dirty } positions =
      ((d.flipAll positions).1, { (d.flipAll positions).2 with dirty }) := by
  unfold flipAll
  generalize false = hit
  induction positions generalizing d hit with
  | nil => rfl
  | cons position rest ih => exact ih (d.flip position) _

/-- Drawing does not look at whether the display is due to be shown. -/
theorem drawn_withDirty (d : Display) (dirty : Bool) (x y : Int) (sprite : Sprite) :
    drawn { d with dirty } x y sprite = d.drawn x y sprite := by
  have hflipped := flipAll_withDirty d dirty
    (sprite.cells.map fun (column, row) ↦ d.position (x + column) (y + row))
  exact congrArg (fun flipped : Bool × Display ↦ (flipped.1, { flipped.2 with dirty := true }))
    hflipped

theorem draw_withDirty (d : Display) (dirty : Bool) (x y : Int) (sprite : Sprite) :
    draw { d with dirty } x y sprite = d.draw x y sprite := by
  rw [draw_eq, draw_eq, drawn_withDirty]
  rfl

theorem sameSize_drawn (d : Display) (x y : Int) (sprite : Sprite) :
    SameSize d (d.drawn x y sprite).2 := by
  have h := sameSize_flipAll d
    (sprite.cells.map fun (column, row) ↦ d.position (x + column) (y + row))
  exact ⟨h.width, h.height, h.pixels⟩

end ChipEight.Display
