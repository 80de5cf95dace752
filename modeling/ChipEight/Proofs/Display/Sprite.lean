import ChipEight.Display
import Mathlib.Data.List.Sigma
import Mathlib.Data.Nat.Bitwise

/-!
# The set bits of a sprite

A sprite is drawn from the list of its set bits, column and row each. The list holds exactly the set
bits (`mem_cells`), each of them once (`nodup_cells`).
-/

namespace ChipEight.Sprite

variable {sprite : Sprite} {row : UInt8} {column y : Nat}

theorem mem_rowCells :
    column ∈ rowCells row ↔ column < 8 ∧ row.toNat.testBit (7 - column) = true := by
  simp [rowCells, width]

/-- The cells of a sprite are its set bits. -/
theorem mem_cells :
    (column, y) ∈ sprite.cells ↔
      column < 8 ∧ ∃ row, sprite[y]? = some row ∧ row.toNat.testBit (7 - column) = true := by
  simp only [cells, List.mem_flatMap, List.mem_map, mem_rowCells, Prod.mk.injEq, Prod.exists,
    List.mem_zipIdx_iff_getElem?]
  constructor
  · rintro ⟨row, y', hrow, column', ⟨hcolumn, hbit⟩, rfl, rfl⟩
    exact ⟨hcolumn, row, hrow, hbit⟩
  · rintro ⟨hcolumn, row, hrow, hbit⟩
    exact ⟨row, y, hrow, column, ⟨hcolumn, hbit⟩, rfl, rfl⟩

/-- No cell comes up twice. -/
theorem nodup_cells (sprite : Sprite) : sprite.cells.Nodup := by
  refine List.nodup_flatMap.2 ⟨fun (row, y) _ ↦ ?_, ?_⟩
  · refine List.Nodup.map (fun a b h ↦ (Prod.mk.inj h).1) ?_
    exact List.nodup_range.filter _
  · -- Cells of different rows differ in their second coordinate.
    have hrows : sprite.zipIdx.Pairwise fun a b ↦ a.2 ≠ b.2 :=
      List.pairwise_map.1 (List.nodup_zipIdx_map_snd sprite)
    refine hrows.imp fun {a b} hne ↦ List.disjoint_left.2 fun cell ha hb ↦ hne ?_
    obtain ⟨x, -, rfl⟩ := List.mem_map.1 ha
    obtain ⟨x', -, hcell⟩ := List.mem_map.1 hb
    exact (Prod.mk.inj hcell).2.symm

/-- The bit of a column, as a mask picks it out. -/
theorem and_mask_ne_zero_iff (n : Nat) (hcolumn : column < 8) :
    n &&& (0x80 >>> column) ≠ 0 ↔ n.testBit (7 - column) = true := by
  have hmask : 0x80 >>> column = 2 ^ (7 - column) := by
    revert hcolumn
    revert column
    decide
  rw [hmask, Nat.and_two_pow]
  cases n.testBit (7 - column) <;> simp

/-- The cells of a sprite, as masks pick out their bits. -/
theorem mem_cells_iff_and_mask :
    (column, y) ∈ sprite.cells ↔
      (column < 8 ∧ y < sprite.length) ∧ (sprite.getD y 0).toNat &&& (0x80 >>> column) ≠ 0 := by
  rw [mem_cells, and_assoc]
  refine and_congr_right fun hcolumn ↦ ?_
  rw [and_mask_ne_zero_iff _ hcolumn]
  constructor
  · rintro ⟨row, hrow, hbit⟩
    refine ⟨(List.getElem?_eq_some_iff.1 hrow).1, ?_⟩
    rwa [List.getD_eq_getElem?_getD, hrow, Option.getD_some]
  · rintro ⟨hy, hbit⟩
    rw [List.getD_eq_getElem _ _ hy] at hbit
    exact ⟨sprite[y], List.getElem?_eq_getElem hy, hbit⟩

end ChipEight.Sprite
