import ChipEight.Proofs.Host.Pad
import ChipEight.Proofs.Host.Picture

/-!
# A display as it is shown

A renderer that was told the size of a display shows it exactly, whatever it has shown before. A
window hands over three bytes for each pixel, row by row, in the colours of its palette
(`Palette.Paints`). A terminal writes each cell below the title once, by the pixel that the scale
stretches over it (`Pad.Shows`), and fills the first row with the title (`Pad.Titled`); it never
writes past the end of a row. `Renderer.shows_display_exactly` says so of every renderer, for every
display and after every run of displays of that size.

Only the picture in a window outlasts a display that was shown. It has the size of the display, so
it is painted over as a whole (`Renderer.paint_eq`).
-/

namespace ChipEight

/-- A picture shows a display: it has three bytes for each pixel, row by row, and they are the
colour of lit pixels or that of the others. -/
structure Palette.Paints (palette : Palette) (d : Display) (picture : Array UInt8) : Prop where
  size : (picture.size : Int) = 3 * d.width * d.height
  pixel : ∀ x y, 0 ≤ x → x < d.width → 0 ≤ y → y < d.height → ∃ lit, d.pixel x y = .ok lit ∧
    picture.extract (3 * (x + y * d.width)).toNat (3 * (x + y * d.width) + 3).toNat =
      (if lit then palette.foreground else palette.background).bytes

/-- A cell area has become another one by showing a display below the first row: each cell that a
pixel is stretched over was written once, reversed if the pixel is lit, and no other cell was. -/
structure Pad.Shows (p q : Pad) (d : Display) (scale : Int) : Prop where
  drawn : ∀ row column, 1 ≤ row → row ≤ d.height → 0 ≤ column → column < d.width * scale →
    ∃ lit, d.pixel (column / scale) (row - 1) = .ok lit ∧
      q.marks row column = p.marks row column ++ [⟨' ', lit⟩]
  spared : ∀ row column,
    ¬ ((1 ≤ row ∧ row ≤ d.height) ∧ 0 ≤ column ∧ column < d.width * scale) →
      q.marks row column = p.marks row column

/-- A cell area has become another one by showing a title in the first row: as many cells as the
width says were written once, reversed, with the title and blanks behind it, and no other cell
was. -/
structure Pad.Titled (p q : Pad) (title : String) (width : Int) : Prop where
  written : ∀ column, 0 ≤ column → column < width →
    q.marks 0 column = p.marks 0 column ++ [⟨title.toList.getD column.toNat ' ', true⟩]
  spared : ∀ row column, ¬ (row = 0 ∧ 0 ≤ column ∧ column < width) →
    q.marks row column = p.marks row column

/-- Of lists of one length that are put together, one is found at its place. -/
theorem take_drop_flatMap {α β : Type} {f : α → List β} {n : Nat} (hf : ∀ a, (f a).length = n)
    {l : List α} {k : Nat} (hk : k < l.length) :
    ((l.flatMap f).drop (n * k)).take n = f l[k] := by
  induction l generalizing k with
  | nil => exact absurd hk (Nat.not_lt_zero k)
  | cons a rest ih =>
    rw [List.flatMap_cons]
    match k with
    | 0 => rw [Nat.mul_zero, List.drop_zero, List.take_left' (hf a)]; rfl
    | k + 1 =>
      rw [Nat.mul_succ, Nat.add_comm, ← List.drop_drop, List.drop_left' (hf a),
        ih (Nat.lt_of_succ_lt_succ hk)]
      rfl

namespace Renderer

variable {r : Renderer} {d : Display}

/-! ### Pictures -/

/-- The bytes of a pixel stand at its place. -/
theorem extract_painted (palette : Palette) {pixels : Array Bool} {q : Nat}
    (hq : q < pixels.size) : (painted palette pixels).extract (3 * q) (3 * q + 3) =
      (palette.colour pixels[q]).bytes := by
  have hlength (lit : Bool) : ((palette.colour lit).bytes.toList).length = 3 := rfl
  apply Array.toList_inj.1
  rw [Array.toList_extract, painted, Array.toList_flatMap, List.extract_eq_take_drop,
    Nat.add_sub_cancel_left, take_drop_flatMap hlength hq, Array.getElem_toList]

/-- The picture of a display shows it. -/
theorem paints_painted (palette : Palette) (hd : d.Proper) :
    palette.Paints d (painted palette d.pixels) where
  size := by
    rw [size_painted]
    push_cast
    rw [d.size_pixels, Int.mul_assoc]
  pixel := by
    intro x y hx hwidth hy hheight
    refine ⟨_, hd.pixel_eq x y, ?_⟩
    have hposition : (d.position x y : Int) = x + y * d.width := by
      rw [hd.position_eq, Int.emod_eq_of_lt hx hwidth, Int.emod_eq_of_lt hy hheight]
    have hlt := hd.position_lt x y
    have hstart : (3 * (x + y * d.width)).toNat = 3 * d.position x y := by omega
    have hend : (3 * (x + y * d.width) + 3).toNat = 3 * d.position x y + 3 := by omega
    have hlit : d.isLit (d.position x y) = d.pixels[d.position x y] := by
      simp [Display.isLit, Array.getD, hlt]
    rw [hstart, hend, extract_painted palette hlt, ← hlit]
    rfl

/-! ### Showing displays -/

/-- The renderer after some displays were shown. -/
def showAll (r : Renderer) (displays : List Display) : Except Failure Renderer :=
  displays.foldlM (fun r d ↦ (r.refresh d).1) r

/-- **A run of displays that fit** is shown, and leaves the set-up and the room for the next one. -/
theorem exists_showAll {pixels : Nat} (hfits : r.Fits pixels) {displays : List Display}
    (hsize : ∀ e ∈ displays, e.pixels.size = pixels) :
    ∃ ready, r.showAll displays = .ok ready ∧ r.SetUpAs ready ∧ ready.Fits pixels := by
  induction displays generalizing r with
  | nil => exact ⟨r, rfl, SetUpAs.refl r, hfits⟩
  | cons e rest ih =>
    obtain ⟨he, hrest⟩ := List.forall_mem_cons.1 hsize
    obtain ⟨shown, calls, hrefresh, hshown⟩ := refresh_of_fits (he ▸ hfits)
    obtain ⟨ready, hready, hsetUp, hroom⟩ := ih (he ▸ hshown) hrest
    refine ⟨ready, ?_, (setUpAs_refresh hrefresh).trans hsetUp, hroom⟩
    show ((r.refresh e).1.bind fun r ↦ r.showAll rest) = .ok ready
    rw [hrefresh]
    exact hready

/-! ### Each kind of renderer -/

/-- A renderer with a window hands over a picture of a display. -/
def ShowsInWindow (r : Renderer) (palette : Palette) (d : Display) : Prop :=
  ∃ shown picture calls, r.refresh d = (.ok shown, .picture picture d.width d.height :: calls) ∧
    palette.Paints d picture

/-- A renderer with a terminal shows a display, and any title, in the area that it was prepared
with, whatever stands there. A title fails if the host holds no text of its width; then nothing is
written. -/
def ShowsInTerminal (r : Renderer) (scale : Int) (d : Display) : Prop :=
  ∀ p : Pad, p.rows = d.height + 2 → p.columns = d.width * scale + 1 →
    (∃ shown calls q, r.refresh d = (.ok shown, calls) ∧ p.replay? calls = some q ∧
      p.Shows q d scale) ∧
    ∀ title, (∃ failure, r.setTitle title = (.error failure, []) ∧
        ¬ Extent.Held r.limit (d.width * scale)) ∨
      ∃ titled calls q, r.setTitle title = (.ok titled, calls) ∧ p.replay? calls = some q ∧
        p.Titled q title (d.width * scale)

theorem showsInWindow {w : Window} (hdevice : r.device = .window w) (hwidth : r.width = d.width)
    (hheight : r.height = d.height) (hd : d.Proper) (hfits : r.Fits d.pixels.size) :
    r.ShowsInWindow w.palette d := by
  have hrefresh : r.refresh d = (.ok { r with
        frames := r.frames + 1
        device := .window { w with picture := painted w.palette d.pixels } },
      [.picture (painted w.palette d.pixels) d.width d.height, .stretch w.size.1 w.size.2,
        .place 0 0, .present]) := by
    rw [refresh.eq_def, hdevice]
    dsimp only
    rw [paint_eq (hfits w hdevice), hwidth, hheight]
  exact ⟨_, _, _, hrefresh, paints_painted w.palette hd⟩

/-- Calls that follow a change of the terminal's size write nothing. -/
theorem filterMap_resizeCalls (t : Terminal) (size : Int × Int) :
    (resizeCalls t size).filterMap HostCall.cellText? = [] := by
  rw [resizeCalls]
  split
  · rfl
  · split <;> rfl

theorem shows_of_terminal {t : Terminal} (hdevice : r.device = .terminal t) (hd : d.Proper)
    (hscale : 1 ≤ r.scale) {p : Pad} (hrows : p.rows = d.height + 2)
    (hcolumns : p.columns = d.width * r.scale + 1) :
    ∃ shown calls q, r.refresh d = (.ok shown, calls) ∧ p.replay? calls = some q ∧
      p.Shows q d r.scale := by
  have hrefresh : r.refresh d = (.ok { r with
        frames := r.frames + 1
        device := .terminal { t with host := t.host.size.2, lastSize := t.host.size.1 } },
      rowCalls r.scale d.rows ++ resizeCalls t t.host.size.1 ++
        [.showPad 0 0 (t.host.size.1.1 - 1) (t.host.size.1.2 - 1)]) := by
    rw [refresh.eq_def, hdevice]
  have htexts : (rowCalls r.scale d.rows ++ resizeCalls t t.host.size.1 ++
      [HostCall.showPad 0 0 (t.host.size.1.1 - 1) (t.host.size.1.2 - 1)]).filterMap
        HostCall.cellText? = d.rowTexts r.scale := by
    rw [List.filterMap_append, List.filterMap_append, Display.filterMap_rowCalls,
      filterMap_resizeCalls]
    exact (List.append_nil _).trans (List.append_nil _)
  have hinside : ∀ text ∈ d.rowTexts r.scale, text.Inside p.rows p.columns := by
    intro text htext
    rw [hrows, hcolumns]
    exact hd.inside_of_mem_rowTexts hscale htext
  refine ⟨_, _, _, hrefresh, (congrArg (·.foldlM Pad.write? p) htexts).trans
    (Pad.foldlM_write?_eq hinside), ?_, ?_⟩
  · intro row column hlow hhigh hleft hright
    refine ⟨_, hd.pixel_eq _ _, congrArg (p.marks row column ++ ·) ?_⟩
    exact (hd.marks_rowTexts hscale row column).trans (if_pos ⟨⟨hlow, hhigh⟩, hleft, hright⟩)
  · intro row column hcell
    refine (congrArg (p.marks row column ++ ·) ?_).trans (List.append_nil _)
    exact (hd.marks_rowTexts hscale row column).trans (if_neg hcell)

/-- A title that fills a width: its own characters first, then blanks. -/
theorem getElem?_render (title : String) {width column : Int} (hlow : 0 ≤ column)
    (hhigh : column < width) : (Fitted.render width title).toList[column.toNat]? =
      some (title.toList.getD column.toNat ' ') := by
  have hcut : Fitted.cut width title.toList = title.toList.take width.toNat :=
    if_neg (by omega)
  rw [Fitted.render, String.toList_ofList, hcut, List.getD_eq_getElem?_getD]
  by_cases hlt : column.toNat < title.toList.length
  · rw [List.getElem?_append_left (by rw [List.length_take]; omega),
      List.getElem?_take_of_lt (by omega), List.getElem?_eq_getElem hlt, Option.getD_some]
  · rw [List.getElem?_append_right (by rw [List.length_take]; omega), List.getElem?_replicate,
      List.getElem?_eq_none (by omega), Option.getD_none, List.length_take]
    exact if_pos (by omega)

/-- The text that shows a title in the first row of cells. -/
def titleText (title : String) (width : Int) : CellText :=
  ⟨0, 0, (Fitted.render width title).toList, true⟩

theorem length_titleText {width : Int} (hnonneg : 0 ≤ width) (title : String) :
    ((titleText title width).chars.length : Int) = width := by
  show ((Fitted.render width title).toList.length : Int) = width
  rw [String.length_toList, Fitted.length_render hnonneg, Int.toNat_of_nonneg hnonneg]

/-- A title marks the first row of cells, as far as its width reaches. -/
theorem marksAt_titleText {width : Int} (hnonneg : 0 ≤ width) (title : String)
    (row column : Int) : (titleText title width).marksAt row column =
      if row = 0 ∧ 0 ≤ column ∧ column < width then
        [⟨title.toList.getD column.toNat ' ', true⟩]
      else [] := by
  have hlength := length_titleText hnonneg title
  rw [CellText.marksAt]
  show (if row = 0 ∧ 0 ≤ column then
    ((titleText title width).chars[(column - 0).toNat]?).toList.map (Mark.mk · true)
      else []) = _
  rw [Int.sub_zero]
  by_cases hcell : row = 0 ∧ 0 ≤ column
  · rw [if_pos hcell]
    by_cases hhigh : column < width
    · rw [if_pos ⟨hcell.1, hcell.2, hhigh⟩]
      show ((Fitted.render width title).toList[column.toNat]?).toList.map (Mark.mk · true) = _
      rw [getElem?_render title hcell.2 hhigh]
      rfl
    · rw [if_neg fun h ↦ hhigh h.2.2, List.getElem?_eq_none (by omega)]
      rfl
  · rw [if_neg hcell, if_neg fun h ↦ hcell ⟨h.1, h.2.1⟩]

theorem titled_of_terminal {t : Terminal} (hdevice : r.device = .terminal t)
    (hwidth : r.width = d.width) (hd : d.Proper) (hscale : 1 ≤ r.scale)
    (hheld : Extent.Held r.limit (d.width * r.scale)) {p : Pad} (hrows : p.rows = d.height + 2)
    (hcolumns : p.columns = d.width * r.scale + 1) (title : String) :
    ∃ titled calls q, r.setTitle title = (.ok titled, calls) ∧ p.replay? calls = some q ∧
      p.Titled q title (d.width * r.scale) := by
  have hheight := hd.height
  have hcolumn := hd.width
  have hnonneg : 0 ≤ d.width * r.scale := Int.mul_nonneg (by omega) (by omega)
  have htitle : r.setTitle title =
      (.ok { r with title }, [.write 0 0 title (d.width * r.scale) true]) := by
    rw [setTitle.eq_def, hdevice, hwidth]
    dsimp only
    rw [Extent.check_of_held hnonneg hheld]
  have hinside : ∀ text ∈ [titleText title (d.width * r.scale)],
      text.Inside p.rows p.columns := by
    have hlength := length_titleText hnonneg title
    rw [List.forall_mem_singleton, hrows, hcolumns]
    refine ⟨⟨Int.le_refl 0, ?_⟩, Int.le_refl 0, ?_⟩
    · show 0 < d.height + 2
      omega
    · show 0 + _ < _
      omega
  have hmarks (row column : Int) := (List.append_nil _).trans
    (marksAt_titleText hnonneg title row column)
  refine ⟨_, _, _, htitle, Pad.foldlM_write?_eq hinside, ?_, ?_⟩
  · intro column hlow hhigh
    refine congrArg (p.marks 0 column ++ ·) ?_
    exact (hmarks 0 column).trans (if_pos ⟨rfl, hlow, hhigh⟩)
  · intro row column hcell
    refine (congrArg (p.marks row column ++ ·) ?_).trans (List.append_nil _)
    exact (hmarks row column).trans (if_neg hcell)

/-- A title of a width that is not held fails. -/
theorem exists_setTitle_eq_error {t : Terminal} (hdevice : r.device = .terminal t)
    (hheld : ¬ Extent.Held r.limit (r.width * r.scale)) (title : String) :
    ∃ failure, r.setTitle title = (.error failure, []) := by
  obtain ⟨failure, hcheck⟩ := Extent.exists_check_of_not_held hheld
  refine ⟨failure, ?_⟩
  rw [setTitle.eq_def, hdevice]
  dsimp only
  rw [hcheck]

theorem showsInTerminal {t : Terminal} (hdevice : r.device = .terminal t)
    (hwidth : r.width = d.width) (hd : d.Proper) (hscale : 1 ≤ r.scale) :
    r.ShowsInTerminal r.scale d := by
  intro p hrows hcolumns
  refine ⟨shows_of_terminal hdevice hd hscale hrows hcolumns, fun title ↦ ?_⟩
  by_cases hheld : Extent.Held r.limit (d.width * r.scale)
  · exact .inr (titled_of_terminal hdevice hwidth hd hscale hheld hrows hcolumns title)
  · obtain ⟨failure, hfailure⟩ :=
      exists_setTitle_eq_error hdevice (hwidth.symm ▸ hheld) title
    exact .inl ⟨failure, hfailure, hheld⟩

/-! ### All renderers -/

/-- Told a size, a renderer takes it over and stays set up as it was, unless it has a window and its
host holds no picture of that size. A terminal prepares an area of cells. -/
theorem exists_resize (r : Renderer) {width height : Int} (hsides : 0 ≤ width * height) :
    (∃ w failure, r.device = .window w ∧ r.resize width height = (.error failure, []) ∧
      ¬ Extent.Held r.limit (width * height * 3)) ∨
    ∃ prepared calls, r.resize width height = (.ok prepared, calls) ∧
      { r with width, height }.SetUpAs prepared ∧
      ∀ t, r.device = .terminal t → calls = [.makePad (height + 2) (width * r.scale + 1)] := by
  rw [resize.eq_def]
  rcases hdevice : r.device with - | w | t
  · exact .inr ⟨_, _, rfl, ⟨rfl, rfl, rfl, rfl, rfl, id, nofun, nofun⟩, nofun⟩
  · by_cases hheld : Extent.Held r.limit (width * height * 3)
    · dsimp only
      rw [Extent.ofInt_of_held (by omega) hheld]
      refine .inr ⟨_, _, rfl, ⟨rfl, rfl, rfl, rfl, rfl, nofun, fun w' hw' ↦ ?_, nofun⟩, nofun⟩
      obtain rfl := RendererDevice.window.inj hw'
      exact ⟨_, rfl⟩
    · obtain ⟨failure, hfailure⟩ := Extent.exists_ofInt_of_not_held hheld
      dsimp only
      rw [hfailure]
      exact .inl ⟨w, failure, rfl, rfl, hheld⟩
  · exact .inr ⟨_, _, rfl, ⟨rfl, rfl, rfl, rfl, rfl, nofun, nofun, fun t ht ↦ ⟨t, ht⟩⟩,
      fun _ _ ↦ rfl⟩

/-- **A renderer shows a display exactly.** Told the size of a display, a renderer prepares for it,
unless it has a window and its host holds no picture of that size. Then it shows every run of
displays of that size, and after them the display: in a window as a picture that paints it; in a
terminal, in the area of cells that it has prepared, by writing each cell below the title once. -/
theorem shows_display_exactly (r : Renderer) (hd : d.Proper) {earlier : List Display}
    (hearlier : ∀ e ∈ earlier, d.SameSize e) :
    (∃ w failure, r.device = .window w ∧ r.resize d.width d.height = (.error failure, []) ∧
      ¬ Extent.Held r.limit (d.width * d.height * 3)) ∨
    ∃ prepared calls ready, r.resize d.width d.height = (.ok prepared, calls) ∧
      prepared.showAll earlier = .ok ready ∧
      (∀ w, r.device = .window w → ready.ShowsInWindow w.palette d) ∧
      ∀ t, r.device = .terminal t → 1 ≤ r.scale →
        calls = [.makePad (d.height + 2) (d.width * r.scale + 1)] ∧
          ready.ShowsInTerminal r.scale d := by
  have hsides : 0 ≤ d.width * d.height := by
    rw [← d.size_pixels]
    exact Int.natCast_nonneg _
  have hpixels : (d.width * d.height).toNat = d.pixels.size := by
    rw [← d.size_pixels, Int.toNat_natCast]
  obtain hfails | ⟨prepared, calls, hresize, hprepared, hcalls⟩ := exists_resize r hsides
  · exact .inl hfails
  · have hroom := fits_resize hresize hsides
    rw [hpixels] at hroom
    obtain ⟨ready, hready, hsetUp, hfits⟩ :=
      exists_showAll hroom fun e he ↦ (hearlier e he).pixels
    have hsame := hprepared.trans hsetUp
    refine .inr ⟨prepared, calls, ready, hresize, hready, fun w hw ↦ ?_, fun t ht hscale ↦ ?_⟩
    · obtain ⟨picture, hpicture⟩ := hsame.window w hw
      exact showsInWindow (w := { w with picture }) hpicture hsame.width hsame.height hd hfits
    · obtain ⟨t', ht'⟩ := hsame.terminal t ht
      have hscale' : ready.scale = r.scale := hsame.scale
      refine ⟨hcalls t ht, ?_⟩
      rw [← hscale']
      exact showsInTerminal ht' hsame.width hd (hscale'.symm ▸ hscale)

/-- A display of three columns and two rows, lit like a chessboard. -/
def chessboard : Display :=
  ⟨3, 2, #[true, false, true, false, true, false], true, rfl⟩

/-- A white window, and black where it is lit. -/
def whiteWindow : Window :=
  ⟨(8, 4), ⟨⟨255, 255, 255⟩, ⟨0, 0, 0⟩⟩, #[]⟩

/-- The chessboard after the same board in the dark, in a window and in a terminal that stretches it
twice: the middle pixel of the second row is black, and so are the two cells below its two. -/
theorem shows_display_exactly_chessboard :
    chessboard.Proper ∧ (∀ e ∈ [chessboard.clear], chessboard.SameSize e) ∧
    (∃ prepared calls ready shown picture rest,
      (fresh (.window whiteWindow) 8 "").resize 3 2 = (.ok prepared, calls) ∧
        prepared.showAll [chessboard.clear] = .ok ready ∧
        ready.refresh chessboard = (.ok shown, .picture picture 3 2 :: rest) ∧
        picture.extract 12 15 = #[0, 0, 0]) ∧
    ∃ prepared ready shown calls q,
      (fresh (.terminal ⟨⟨[], true, fun _ ↦ none⟩, (-1, -1), .absent⟩) 2 "").resize 3 2 =
          (.ok prepared, [.makePad 4 7]) ∧
        prepared.showAll [chessboard.clear] = .ok ready ∧
        ready.refresh chessboard = (.ok shown, calls) ∧
        Pad.replay? ⟨4, 7, fun _ _ ↦ []⟩ calls = some q ∧
        q.marks 2 2 = [⟨' ', true⟩] ∧ q.marks 2 3 = [⟨' ', true⟩] ∧ q.marks 2 6 = [] := by
  have hd : chessboard.Proper := ⟨by decide, by decide⟩
  have hdark : ∀ e ∈ [chessboard.clear], chessboard.SameSize e := by
    rw [List.forall_mem_singleton]
    exact Display.sameSize_clear chessboard
  have hheld : Extent.Held Extent.usualLimit (chessboard.width * chessboard.height * 3) := by decide
  refine ⟨hd, hdark, ?_, ?_⟩
  · obtain ⟨_, _, -, -, hover⟩ | ⟨prepared, calls, ready, hresize, hready, hwindow, -⟩ :=
      shows_display_exactly (fresh (.window whiteWindow) 8 "") hd hdark
    · exact absurd hheld hover
    · obtain ⟨shown, picture, rest, hrefresh, hpaints⟩ := hwindow whiteWindow rfl
      obtain ⟨lit, hlit, hbytes⟩ :=
        hpaints.pixel 1 1 (by decide) (by decide) (by decide) (by decide)
      obtain rfl : true = lit := Except.ok.inj hlit
      exact ⟨prepared, calls, ready, shown, picture, rest, hresize, hready, hrefresh, hbytes⟩
  · obtain ⟨_, _, hdevice, -⟩ | ⟨prepared, calls, ready, hresize, hready, -, hterminal⟩ :=
      shows_display_exactly (fresh (.terminal ⟨⟨[], true, fun _ ↦ none⟩, (-1, -1), .absent⟩) 2 "")
        hd hdark
    · cases hdevice
    · obtain ⟨rfl, hshows⟩ := hterminal _ rfl (by decide)
      obtain ⟨⟨shown, calls, q, hrefresh, hreplay, hq⟩, -⟩ :=
        hshows ⟨4, 7, fun _ _ ↦ []⟩ rfl rfl
      obtain ⟨left, hleft, hmarksLeft⟩ :=
        hq.drawn 2 2 (by decide) (by decide) (by decide) (by decide)
      obtain ⟨right, hright, hmarksRight⟩ :=
        hq.drawn 2 3 (by decide) (by decide) (by decide) (by decide)
      obtain rfl : true = left := Except.ok.inj hleft
      obtain rfl : true = right := Except.ok.inj hright
      exact ⟨prepared, ready, shown, calls, q, hresize, hready, hrefresh, hreplay, hmarksLeft,
        hmarksRight, hq.spared 2 6 (by decide)⟩

end Renderer

end ChipEight
