import ChipEight.Host.Renderer
import ChipEight.Text.Fitted
import ChipEight.Proofs.Display.Torus

/-!
# Cells of a terminal

A terminal is told to write texts into an area of character cells. What that leaves can be told cell
by cell: a text leaves at most one mark in a cell (`CellText.marksAt`), and texts that stay inside
their rows leave the marks of each of them in turn (`Pad.foldlM_write?_eq`).

The texts that show a display tile the rows below the title: a cell is marked by the one pixel in
the row above its own and in the column that the scale stretches over it
(`Display.Proper.marks_rowTexts`), and the texts stay inside the area that a terminal is prepared
with (`Display.Proper.inside_of_mem_rowTexts`).
-/

namespace ChipEight

/-- A character that was written into a cell, and whether it shows dark on light. -/
structure Mark where
  char : Char
  reversed : Bool
  deriving DecidableEq, Repr

/-- A text that is written into the cells of a row, from a column on. -/
structure CellText where
  row : Int
  column : Int
  chars : List Char
  reversed : Bool
  deriving DecidableEq, Repr

/-- The text that a call writes into cells, if it writes one. -/
def HostCall.cellText? : HostCall → Option CellText
  | .write y x text width reversed => some ⟨y, x, (Fitted.render width text).toList, reversed⟩
  | _ => none

namespace CellText

/-- The mark that a text leaves in a cell, if it leaves one there. -/
def marksAt (t : CellText) (row column : Int) : List Mark :=
  if row = t.row ∧ t.column ≤ column then
    (t.chars[(column - t.column).toNat]?).toList.map (⟨·, t.reversed⟩)
  else []

/-- A text begins and ends in a row of an area, with room left for the cursor behind it. -/
def Inside (t : CellText) (rows columns : Int) : Prop :=
  (0 ≤ t.row ∧ t.row < rows) ∧ 0 ≤ t.column ∧ t.column + t.chars.length < columns

instance (t : CellText) (rows columns : Int) : Decidable (t.Inside rows columns) :=
  inferInstanceAs (Decidable (_ ∧ _))

end CellText

/-- An area of character cells, with all that was written into each of them in turn. -/
structure Pad where
  rows : Int
  columns : Int
  marks : Int → Int → List Mark

namespace Pad

/-- The area with more marks in its cells. -/
def mark (p : Pad) (marks : Int → Int → List Mark) : Pad :=
  { p with marks := fun row column ↦ p.marks row column ++ marks row column }

/-- Writes a text. It is an error if the text does not stay inside its row. -/
def write? (p : Pad) (t : CellText) : Option Pad :=
  if t.Inside p.rows p.columns then some (p.mark t.marksAt) else none

/-- Writes the texts of some calls in turn. -/
def replay? (p : Pad) (calls : List HostCall) : Option Pad :=
  (calls.filterMap HostCall.cellText?).foldlM write? p

/-- **Texts that stay inside** their rows leave their marks in turn. -/
theorem foldlM_write?_eq {p : Pad} {texts : List CellText}
    (h : ∀ t ∈ texts, t.Inside p.rows p.columns) : texts.foldlM write? p =
      some (p.mark fun row column ↦ texts.flatMap (·.marksAt row column)) := by
  induction texts generalizing p with
  | nil => simp [mark]
  | cons t rest ih =>
    obtain ⟨ht, hrest⟩ := List.forall_mem_cons.1 h
    have hwrite : p.write? t = some (p.mark t.marksAt) := if_pos ht
    have hrest' : ∀ t' ∈ rest, t'.Inside (p.mark t.marksAt).rows (p.mark t.marksAt).columns := hrest
    rw [List.foldlM_cons, hwrite]
    refine (ih hrest').trans ?_
    simp [mark, List.append_assoc]

end Pad

/-! ### Numbered lists -/

/-- A number picks one item of a list whose items are numbered from some number on. -/
theorem flatMap_zipIdx_from_ite {α β : Type} (l : List α) (start : Nat) (k : Int) (f : α → List β) :
    ((l.zipIdx start).flatMap fun item ↦ if (item.2 : Int) = k then f item.1 else []) =
      if start ≤ k then (l[(k - start).toNat]?).toList.flatMap f else [] := by
  induction l generalizing start with
  | nil => simp
  | cons a rest ih =>
    rw [List.zipIdx_cons, List.flatMap_cons, ih]
    dsimp only
    obtain hlt | rfl | hgt := Int.lt_trichotomy k start
    · rw [if_neg (by omega), if_neg (by omega), if_neg (by omega), List.nil_append]
    · simp
    · have hindex : (k - start).toNat = (k - (start + 1 : Nat)).toNat + 1 := by omega
      rw [if_neg (by omega), if_pos (by omega), if_pos (by omega), hindex,
        List.getElem?_cons_succ, List.nil_append]

/-- A number picks one item of a list whose items are numbered. -/
theorem flatMap_zipIdx_ite {α β : Type} (l : List α) (k : Int) (f : α → List β) :
    (l.zipIdx.flatMap fun item ↦ if (item.2 : Int) = k then f item.1 else []) =
      if 0 ≤ k then (l[k.toNat]?).toList.flatMap f else [] := by
  simpa using flatMap_zipIdx_from_ite l 0 k f

/-! ### The rows of a display -/

namespace Display

variable {d : Display} {scale row column : Int}

/-- A display has as many rows as it says. -/
theorem length_rows (d : Display) : d.rows.length = d.height.toNat := by
  simp [rows]

/-- A row of a display holds its pixels from the left. -/
theorem Proper.getElem?_rows (h : d.Proper) {y : Nat} (hy : (y : Int) < d.height) :
    d.rows[y]? = some ((List.range d.width.toNat).map fun x : Nat ↦ d.isLit (d.position x y)) := by
  have hwidth := h.width
  have hheight := h.height
  have hsize := d.size_pixels
  have hroom : (y + 1) * d.width.toNat ≤ d.pixels.size := by
    have hle : ((y : Int) + 1) * d.width ≤ d.height * d.width :=
      Int.mul_le_mul_of_nonneg_right (by omega) (by omega)
    rw [Int.mul_comm d.height, ← hsize] at hle
    have hcast : ((d.width.toNat : Nat) : Int) = d.width := Int.toNat_of_nonneg (by omega)
    rw [← Int.ofNat_le]
    push_cast
    rw [hcast]
    exact hle
  have hrow : (y + 1) * d.width.toNat = y * d.width.toNat + d.width.toNat := Nat.succ_mul ..
  rw [rows, List.getElem?_map, List.getElem?_range (by omega), Option.map_some]
  congr 1
  refine List.ext_getElem (by simp; omega) fun x hx hx' ↦ ?_
  rw [List.length_map, List.length_range] at hx'
  have hposition : d.position x y = y * d.width.toNat + x := by
    rw [← Int.ofNat_inj, h.position_eq, Int.emod_eq_of_lt (by omega) (by omega),
      Int.emod_eq_of_lt (by omega) hy]
    push_cast
    rw [Int.toNat_of_nonneg (by omega)]
    omega
  have hlt : y * d.width.toNat + x < d.pixels.size := by omega
  simp [hposition, isLit, Array.getD, hlt]

/-- The texts that show a row of pixels in a row of cells, a run of blanks for each pixel. -/
def lineTexts (scale y : Int) (pixels : List Bool) : List CellText :=
  pixels.zipIdx.map fun pixel ↦
    ⟨y, pixel.2 * scale, List.replicate scale.toNat ' ', pixel.1⟩

/-- The texts that show a display below the first row of cells. -/
def rowTexts (d : Display) (scale : Int) : List CellText :=
  d.rows.zipIdx.flatMap fun line ↦ lineTexts scale (line.2 + 1) line.1

/-- The calls that draw the rows of a display write its texts. -/
theorem filterMap_rowCalls (scale : Int) (d : Display) :
    (Renderer.rowCalls scale d.rows).filterMap HostCall.cellText? = d.rowTexts scale := by
  have hblank : (Fitted.render scale "").toList = List.replicate scale.toNat ' ' := by
    simp [Fitted.render, Fitted.cut]
  rw [Renderer.rowCalls, rowTexts, List.filterMap_flatMap]
  refine List.flatMap_congr fun line _ ↦ ?_
  rw [lineTexts, List.filterMap_map, ← List.filterMap_eq_map]
  refine List.filterMap_congr fun pixel _ ↦ ?_
  show some (CellText.mk _ _ _ _) = _
  rw [hblank]
  rfl

/-- A scale stretches a number over the columns that it divides to the number. -/
theorem eq_ediv_iff (hscale : 1 ≤ scale) (x column : Int) :
    x = column / scale ↔ x * scale ≤ column ∧ column < x * scale + scale := by
  have hlow : x ≤ column / scale ↔ x * scale ≤ column := Int.le_ediv_iff_mul_le (by omega)
  have hhigh : column / scale < x + 1 ↔ column < (x + 1) * scale :=
    Int.ediv_lt_iff_lt_mul (by omega)
  rw [Int.add_mul, Int.one_mul] at hhigh
  omega

/-- A pixel marks the cells of its row that the scale stretches it over. -/
theorem marksAt_pixel (hscale : 1 ≤ scale) (y x : Int) (lit : Bool) :
    (CellText.mk y (x * scale) (List.replicate scale.toNat ' ') lit).marksAt row column =
      if row = y then (if x = column / scale then [⟨' ', lit⟩] else []) else [] := by
  have hx := eq_ediv_iff hscale x column
  rw [CellText.marksAt]
  dsimp only
  by_cases hrow : row = y
  · by_cases hcolumn : x = column / scale
    · have hbounds := hx.1 hcolumn
      rw [if_pos ⟨hrow, hbounds.1⟩, if_pos hrow, if_pos hcolumn, List.getElem?_replicate,
        if_pos (by omega)]
      rfl
    · rw [if_pos hrow, if_neg hcolumn]
      split
      · rename_i hle
        rw [List.getElem?_replicate, if_neg (by omega)]
        rfl
      · rfl
  · rw [if_neg hrow, if_neg fun h ↦ hrow h.1]

/-- The mark that a row of pixels leaves in a column of the row of cells that shows it. -/
def columnMark (scale column : Int) (pixels : List Bool) : List Mark :=
  if 0 ≤ column / scale then
    (pixels[(column / scale).toNat]?).toList.flatMap fun lit ↦ [⟨' ', lit⟩]
  else []

theorem marks_lineTexts (hscale : 1 ≤ scale) (y : Int) (pixels : List Bool) :
    (lineTexts scale y pixels).flatMap (·.marksAt row column) =
      if row = y then columnMark scale column pixels else [] := by
  rw [lineTexts, List.flatMap_map]
  simp only [marksAt_pixel hscale]
  by_cases hrow : row = y
  · simp only [hrow, if_true]
    exact flatMap_zipIdx_ite pixels (column / scale) fun lit ↦ [Mark.mk ' ' lit]
  · simp [hrow]

/-- A row of pixels marks the columns that it reaches, each of them by one pixel. -/
theorem columnMark_range (hscale : 1 ≤ scale) (width column : Int) (lit : Nat → Bool) :
    columnMark scale column ((List.range width.toNat).map lit) =
      if 0 ≤ column ∧ column < width * scale then [⟨' ', lit (column / scale).toNat⟩] else [] := by
  have hlow : 0 ≤ column / scale ↔ 0 * scale ≤ column := Int.le_ediv_iff_mul_le (by omega)
  have hhigh : column / scale < width ↔ column < width * scale :=
    Int.ediv_lt_iff_lt_mul (by omega)
  rw [Int.zero_mul] at hlow
  rw [columnMark, List.getElem?_map]
  by_cases hcolumn : 0 ≤ column ∧ column < width * scale
  · rw [if_pos hcolumn, if_pos (hlow.2 hcolumn.1), List.getElem?_range (by omega)]
    rfl
  · rw [if_neg hcolumn]
    split
    · rw [List.getElem?_eq_none (by rw [List.length_range]; omega)]
      rfl
    · rfl

/-- **The texts that show a display tile it.** Each cell of the rows below the first, as far as the
display reaches, is marked by one pixel, and no other cell is marked. -/
theorem Proper.marks_rowTexts (h : d.Proper) (hscale : 1 ≤ scale) (row column : Int) :
    (d.rowTexts scale).flatMap (·.marksAt row column) =
      if (1 ≤ row ∧ row ≤ d.height) ∧ 0 ≤ column ∧ column < d.width * scale then
        [⟨' ', d.isLit (d.position (column / scale) (row - 1))⟩]
      else [] := by
  have hline (line : List Bool × Nat) :
      (row = (line.2 : Int) + 1) = ((line.2 : Int) = row - 1) := by
    apply propext
    omega
  rw [rowTexts, List.flatMap_assoc]
  simp only [marks_lineTexts hscale, hline]
  rw [flatMap_zipIdx_ite]
  by_cases hrow : 1 ≤ row ∧ row ≤ d.height
  · obtain ⟨y, hy⟩ := Int.eq_ofNat_of_zero_le (by omega : 0 ≤ row - 1)
    rw [if_pos (by omega), hy, Int.toNat_natCast, h.getElem?_rows (by omega), Option.toList_some,
      List.flatMap_singleton, columnMark_range hscale]
    simp only [hrow, and_self, true_and]
    refine ite_congr rfl (fun hcolumn ↦ ?_) fun _ ↦ rfl
    rw [Int.toNat_of_nonneg (Int.ediv_nonneg hcolumn.1 (by omega))]
  · rw [if_neg fun hcell : _ ∧ _ ↦ hrow hcell.1]
    split
    · rw [List.getElem?_eq_none (by rw [length_rows]; omega)]
      rfl
    · rfl

/-- The texts that show a display stay inside the area that a terminal is prepared with. -/
theorem Proper.inside_of_mem_rowTexts (h : d.Proper) (hscale : 1 ≤ scale) {t : CellText}
    (ht : t ∈ d.rowTexts scale) : t.Inside (d.height + 2) (d.width * scale + 1) := by
  obtain ⟨line, hline, hpixel⟩ := List.mem_flatMap.1 ht
  obtain ⟨pixel, hmem, rfl⟩ := List.mem_map.1 hpixel
  rw [List.mem_zipIdx_iff_getElem?] at hline hmem
  have hheight := h.height
  obtain ⟨hy, -⟩ := List.getElem?_eq_some_iff.1 hline
  rw [length_rows] at hy
  rw [h.getElem?_rows (by omega), Option.some.injEq] at hline
  obtain ⟨hx, -⟩ := List.getElem?_eq_some_iff.1 hmem
  rw [← hline, List.length_map, List.length_range] at hx
  have hroom : ((pixel.2 : Int) + 1) * scale ≤ d.width * scale :=
    Int.mul_le_mul_of_nonneg_right (by omega) (by omega)
  rw [Int.add_mul, Int.one_mul] at hroom
  have hstart : 0 ≤ (pixel.2 : Int) * scale := Int.mul_nonneg (by omega) (by omega)
  refine ⟨⟨?_, ?_⟩, hstart, ?_⟩
  · show (0 : Int) ≤ line.2 + 1
    omega
  · show (line.2 : Int) + 1 < d.height + 2
    omega
  · show (pixel.2 : Int) * scale + (List.replicate scale.toNat ' ').length < d.width * scale + 1
    rw [List.length_replicate]
    omega

end Display

end ChipEight
