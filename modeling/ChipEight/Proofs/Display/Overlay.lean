import ChipEight.Proofs.Display.Torus
import Mathlib.Data.List.Perm.Basic

/-!
# Sprites drawn one over another

Drawing a sprite flips the pixel under each of its bits, whatever that pixel is. So drawing several
sprites comes to flipping the positions of all their bits in turn (`exists_drawAll`), and what is
left of a pixel depends only on whether its position comes up evenly or oddly often among them
(`pixels_flipAll_of_parity`): the bits that fall on it from all sprites count, as they do for a
single one (`exists_pixel_drawAll`). Another order of the sprites does not change how often a
position comes up, and a sprite that is drawn at two more places of the list adds an even number.
These are the two halves of `drawing_order_irrelevant`.

The reports of hits are left out: they do depend on the order.
-/

namespace ChipEight

/-- A sprite, and the coordinates at which its left upper corner is drawn. -/
structure Placement where
  /-- The column of the corner, before it wraps. -/
  x : Int
  /-- The row of the corner, before it wraps. -/
  y : Int
  /-- The sprite. -/
  sprite : Sprite

/-- The positions that drawing a sprite flips, in turn. -/
def Placement.positions (p : Placement) (d : Display) : List Nat :=
  p.sprite.cells.map fun (column, row) ↦ d.position (p.x + column) (p.y + row)

namespace Display

variable {d e : Display} {placements : List Placement}

/-- Draws sprites in turn. -/
def drawAll (d : Display) : List Placement → Except Failure Display
  | [] => .ok d
  | p :: rest => do
    let (_, drawn) ← d.draw p.x p.y p.sprite
    drawn.drawAll rest

/-! ### Flips by parity -/

/-- Flips in turn, and then others. -/
theorem flipAll_append (d : Display) (first second : List Nat) :
    (d.flipAll (first ++ second)).2 = ((d.flipAll first).2.flipAll second).2 := by
  have hsecond := foldl_flipInto (d.flipAll first).1 (d.flipAll first).2 second
  rw [flipAll_eq, List.foldl_append, ← flipAll_eq]
  exact (congrArg Prod.snd hsecond :)

/-- Displays of one size that agree about every position hold the same pixels. -/
theorem SameSize.pixels_eq (hsize : SameSize d e)
    (hlit : ∀ q < d.pixels.size, e.isLit q = d.isLit q) : e.pixels = d.pixels := by
  refine Array.ext hsize.pixels fun q hq hq' ↦ ?_
  have hagree := hlit q hq'
  simpa [isLit, hq, hq'] using hagree

/-- **Flips by parity.** Two rows of flips leave the same pixels if every position comes up oddly
often in both of them or in none. -/
theorem pixels_flipAll_of_parity (d : Display) {first second : List Nat}
    (hparity : ∀ q, Odd (second.count q) ↔ Odd (first.count q)) :
    (d.flipAll second).2.pixels = (d.flipAll first).2.pixels := by
  have hfirst := sameSize_flipAll d first
  have hsecond := sameSize_flipAll d second
  refine (hfirst.symm.trans hsecond).pixels_eq fun q hq ↦ ?_
  rw [hfirst.pixels] at hq
  rw [isLit_flipAll hq, isLit_flipAll hq, decide_eq_decide.2 (hparity q)]

/-! ### Sprites in turn -/

theorem SameSize.positions_eq (hsize : SameSize d e) (p : Placement) :
    p.positions e = p.positions d := by
  simp only [Placement.positions, hsize.position_eq]

theorem SameSize.flatMap_positions_eq (hsize : SameSize d e) (placements : List Placement) :
    placements.flatMap (·.positions e) = placements.flatMap (·.positions d) :=
  congrArg placements.flatMap (funext hsize.positions_eq)

/-- **Sprites drawn in turn** flip the positions of all their bits in turn. -/
theorem exists_drawAll (h : d.Proper) (placements : List Placement) :
    ∃ e, d.drawAll placements = .ok e ∧ SameSize d e ∧
      e.pixels = (d.flipAll (placements.flatMap (·.positions d))).2.pixels := by
  induction placements generalizing d with
  | nil => exact ⟨d, rfl, SameSize.refl d, rfl⟩
  | cons p rest ih =>
    have hdraw : d.draw p.x p.y p.sprite = .ok (d.drawn p.x p.y p.sprite) := by
      rw [draw_eq, if_neg fun hflat ↦ h.not_flat hflat.1]
    have hsize := sameSize_drawn d p.x p.y p.sprite
    obtain ⟨e, hrest, hsize', hpixels⟩ := ih (h.of_sameSize hsize)
    refine ⟨e, ?_, hsize.trans hsize', ?_⟩
    · rw [drawAll, hdraw]
      exact hrest
    · -- The display between the two is due to be shown, which flipping does not look at.
      have hdirty := flipAll_withDirty (d.flipAll (p.positions d)).2 true
        (rest.flatMap (·.positions d))
      rw [hpixels, hsize.flatMap_positions_eq, List.flatMap_cons, flipAll_append]
      exact congrArg (·.2.pixels) hdirty

/-- **Sprites on a torus, drawn in turn**, change each pixel by the parity of the number of bits
that fall on it from all of them. -/
theorem exists_pixel_drawAll (h : d.Proper) (hdone : d.drawAll placements = .ok e)
    {column row : Int} (hcolumn : 0 ≤ column ∧ column < d.width)
    (hrow : 0 ≤ row ∧ row < d.height) :
    ∃ before after, d.pixel column row = .ok before ∧ e.pixel column row = .ok after ∧
      after.toNat = (before.toNat + (placements.map fun p ↦
        p.sprite.hitCount d.width d.height p.x p.y column row).sum) % 2 := by
  obtain ⟨_, hdrawn, hsize, hpixels⟩ := exists_drawAll h placements
  obtain rfl := Except.ok.inj (hdone.symm.trans hdrawn)
  refine ⟨_, _, h.pixel_eq column row, (h.of_sameSize hsize).pixel_eq column row, ?_⟩
  have hlit : e.isLit (d.position column row) =
      (d.flipAll (placements.flatMap (·.positions d))).2.isLit (d.position column row) :=
    congrArg (·.getD (d.position column row) false) hpixels
  have hcounts : (placements.flatMap (·.positions d)).count (d.position column row) =
      (placements.map fun p ↦
        p.sprite.hitCount d.width d.height p.x p.y column row).sum := by
    rw [List.count_flatMap]
    refine congrArg List.sum (List.map_congr_left fun p _ ↦ ?_)
    exact h.count_positions hcolumn hrow
  rw [hsize.position_eq, hlit, toNat_isLit_flipAll (h.position_lt column row), hcounts]

/-- How often positions come up decides what sprites leave of the pixels. -/
theorem exists_drawAll_of_parity (h : d.Proper) {first second : List Placement}
    (hparity : ∀ q, Odd ((second.flatMap (·.positions d)).count q) ↔
      Odd ((first.flatMap (·.positions d)).count q)) {e : Display}
    (hfirst : d.drawAll first = .ok e) :
    ∃ e', d.drawAll second = .ok e' ∧ e.SameSize e' ∧ e'.pixels = e.pixels := by
  obtain ⟨_, hdone, hsize, hpixels⟩ := exists_drawAll h first
  obtain rfl := Except.ok.inj (hdone.symm.trans hfirst)
  obtain ⟨e', hsecond, hsize', hpixels'⟩ := exists_drawAll h second
  refine ⟨e', hsecond, hsize.symm.trans hsize', ?_⟩
  rw [hpixels, hpixels', pixels_flipAll_of_parity d hparity]

/-- **The order of sprites does not matter.** Sprites can always be drawn, and change each pixel by
the parity of the number of bits on it. Drawing them in any other order leaves the same pixels, and
so does drawing one more sprite twice, at any two places of the list. -/
theorem drawing_order_irrelevant (h : d.Proper) (placements : List Placement) :
    ∃ e, d.drawAll placements = .ok e ∧
      (∀ column row, (0 ≤ column ∧ column < d.width) → (0 ≤ row ∧ row < d.height) →
        ∃ before after, d.pixel column row = .ok before ∧ e.pixel column row = .ok after ∧
          after.toNat = (before.toNat + (placements.map fun p ↦
            p.sprite.hitCount d.width d.height p.x p.y column row).sum) % 2) ∧
      (∀ reordered, reordered.Perm placements →
        ∃ e', d.drawAll reordered = .ok e' ∧ e.SameSize e' ∧ e'.pixels = e.pixels) ∧
      ∀ before middle after, before ++ middle ++ after = placements → ∀ p : Placement,
        ∃ e', d.drawAll (before ++ p :: middle ++ p :: after) = .ok e' ∧ e.SameSize e' ∧
          e'.pixels = e.pixels := by
  obtain ⟨e, hdone, -⟩ := exists_drawAll h placements
  refine ⟨e, hdone, fun column row ↦ exists_pixel_drawAll h hdone, fun reordered hperm ↦ ?_, ?_⟩
  · refine exists_drawAll_of_parity h (fun q ↦ ?_) hdone
    rw [(hperm.flatMap_right _).count_eq]
  · rintro before middle after rfl p
    refine exists_drawAll_of_parity h (fun q ↦ ?_) hdone
    simp only [List.flatMap_append, List.flatMap_cons, List.count_append, Nat.odd_iff]
    omega

/-- Two sprites that are wider than the display and lie over each other leave it dark, in either
order, and also if a third one is drawn in front of them and once more behind them. -/
theorem drawing_order_irrelevant_narrow :
    narrow.Proper ∧ ∃ e, narrow.drawAll [⟨-1, 5, [0xFF, 0x01]⟩, ⟨2, 0, [0xC0]⟩] = .ok e ∧
      e.pixels = #[false, false, false] ∧
      (∃ e', narrow.drawAll [⟨2, 0, [0xC0]⟩, ⟨-1, 5, [0xFF, 0x01]⟩] = .ok e' ∧
        e'.pixels = e.pixels) ∧
      ∃ e', narrow.drawAll [⟨1, -1, [0x80]⟩, ⟨-1, 5, [0xFF, 0x01]⟩, ⟨2, 0, [0xC0]⟩,
        ⟨1, -1, [0x80]⟩] = .ok e' ∧ e'.pixels = e.pixels := by
  have h : narrow.Proper := ⟨by decide, by decide⟩
  have hdark : narrow.drawAll [⟨-1, 5, [0xFF, 0x01]⟩, ⟨2, 0, [0xC0]⟩] =
      .ok ⟨3, 1, #[false, false, false], true, rfl⟩ := by
    decide +kernel
  obtain ⟨e, hdone, -, horder, htwice⟩ :=
    drawing_order_irrelevant h [⟨-1, 5, [0xFF, 0x01]⟩, ⟨2, 0, [0xC0]⟩]
  obtain rfl := Except.ok.inj (hdark.symm.trans hdone)
  obtain ⟨e', hswapped, -, hpixels⟩ := horder _ (List.Perm.swap _ _ [])
  obtain ⟨e'', hframed, -, hpixels'⟩ :=
    htwice [] [⟨-1, 5, [0xFF, 0x01]⟩, ⟨2, 0, [0xC0]⟩] [] rfl ⟨1, -1, [0x80]⟩
  exact ⟨h, _, hdark, rfl, ⟨e', hswapped, hpixels⟩, e'', hframed, hpixels'⟩

end Display

end ChipEight
