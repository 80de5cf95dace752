import ChipEight.Host.Renderer
import Mathlib.Algebra.BigOperators.Group.List.Basic

/-!
# A picture that fits

Showing a display fails in one way only: a window paints three bytes for each pixel, and its picture
has no room for them. A renderer that was told the size of a display has a picture of exactly that
room (`fits_resize`), which is painted over as a whole (`paint_eq`), and showing a display keeps it
(`refresh_of_fits`). So a renderer never fails to show the display that it was prepared for. Beyond
the picture it keeps all that it was set up with (`setUpAs_refresh`).

Showing a title fails in one way only as well: a terminal fits it to a width that is no extent. The
width stays, so a renderer that showed a title never fails to show another one
(`takesTitles_of_setTitle`, `takesTitles_refresh`).
-/

namespace ChipEight

namespace Renderer

variable {r s t : Renderer} {d : Display} {pixels : Nat}

/-- A picture, if there is one, has room for exactly so many pixels. -/
def Fits (r : Renderer) (pixels : Nat) : Prop :=
  ∀ w, r.device = .window w → w.picture.size = 3 * pixels

/-- The bytes of the pixels of a display. -/
def painted (palette : Palette) (pixels : Array Bool) : Array UInt8 :=
  pixels.flatMap fun lit ↦ (palette.colour lit).bytes

/-- A pixel has three bytes. -/
theorem size_painted (palette : Palette) (pixels : Array Bool) :
    (painted palette pixels).size = 3 * pixels.size := by
  have hbytes : (fun lit ↦ (palette.colour lit).bytes.size) = fun _ ↦ 3 := rfl
  rw [painted, Array.size_flatMap, hbytes, ← Array.sum_toList, Array.toList_map]
  simp [List.map_const', Nat.mul_comm]

/-- A picture with room for exactly the pixels is painted over. -/
theorem paint_eq {w : Window} {pixels : Array Bool} (h : w.picture.size = 3 * pixels.size) :
    Window.paint w pixels = .ok (painted w.palette pixels) := by
  have hsize := size_painted w.palette pixels
  have hrest : w.picture.extract (painted w.palette pixels).size w.picture.size = #[] :=
    Array.extract_empty_of_stop_le_start (by omega)
  rw [Window.paint]
  refine (if_pos (by rw [h]; exact Nat.le_of_eq hsize)).trans ?_
  exact congrArg Except.ok ((congrArg (painted w.palette pixels ++ ·) hrest).trans
    Array.append_empty)

/-- **A renderer shows the display that it was prepared for.** -/
theorem refresh_of_fits (h : r.Fits d.pixels.size) :
    ∃ shown calls, r.refresh d = (.ok shown, calls) ∧ shown.Fits d.pixels.size := by
  unfold refresh
  split
  · rename_i hdevice
    refine ⟨_, _, rfl, fun w hw ↦ ?_⟩
    change r.device = .window w at hw
    exact h w hw
  · rename_i w hdevice
    dsimp only
    rw [paint_eq (h w hdevice)]
    refine ⟨_, _, rfl, fun w' hw' ↦ ?_⟩
    obtain rfl := RendererDevice.window.inj hw'
    exact size_painted w.palette d.pixels
  · refine ⟨_, _, rfl, fun w hw ↦ ?_⟩
    cases hw

/-! ### What showing a display leaves -/

/-- Two renderers are set up alike: they differ at most in the number of displays that they showed,
in their pictures and in what a terminal has answered. -/
structure SetUpAs (r s : Renderer) : Prop where
  limit : s.limit = r.limit
  width : s.width = r.width
  height : s.height = r.height
  scale : s.scale = r.scale
  title : s.title = r.title
  headless : r.device = .headless → s.device = .headless
  window : ∀ w, r.device = .window w → ∃ picture, s.device = .window { w with picture }
  terminal : ∀ t, r.device = .terminal t → ∃ t', s.device = .terminal t'

theorem SetUpAs.refl (r : Renderer) : r.SetUpAs r where
  limit := rfl
  width := rfl
  height := rfl
  scale := rfl
  title := rfl
  headless := id
  window := fun w hw ↦ ⟨w.picture, hw⟩
  terminal := fun t ht ↦ ⟨t, ht⟩

theorem SetUpAs.trans (h : r.SetUpAs s) (h' : s.SetUpAs t) : r.SetUpAs t where
  limit := h'.limit.trans h.limit
  width := h'.width.trans h.width
  height := h'.height.trans h.height
  scale := h'.scale.trans h.scale
  title := h'.title.trans h.title
  headless := h'.headless ∘ h.headless
  window := by
    intro w hw
    obtain ⟨picture, hpicture⟩ := h.window w hw
    obtain ⟨picture', hpicture'⟩ := h'.window _ hpicture
    exact ⟨picture', hpicture'⟩
  terminal := by
    intro terminal hterminal
    obtain ⟨answered, hanswered⟩ := h.terminal terminal hterminal
    exact h'.terminal answered hanswered

/-- Showing a display leaves the set-up. -/
theorem setUpAs_refresh {shown : Renderer} {calls : List HostCall}
    (h : r.refresh d = (.ok shown, calls)) : r.SetUpAs shown := by
  obtain ⟨device, width, height, scale, title, frames, limit⟩ := r
  match device with
  | .headless =>
    cases h
    exact ⟨rfl, rfl, rfl, rfl, rfl, id, nofun, nofun⟩
  | .window w =>
    rw [refresh.eq_def] at h
    dsimp only at h
    split at h
    · cases h
    · cases h
      refine ⟨rfl, rfl, rfl, rfl, rfl, nofun, fun w' hw' ↦ ?_, nofun⟩
      obtain rfl := RendererDevice.window.inj hw'
      exact ⟨_, rfl⟩
  | .terminal _ =>
    cases h
    exact ⟨rfl, rfl, rfl, rfl, rfl, nofun, nofun, fun _ _ ↦ ⟨_, rfl⟩⟩

/-- Showing a display leaves the title. -/
theorem title_refresh {shown : Renderer} {calls : List HostCall}
    (hrefresh : r.refresh d = (.ok shown, calls)) : shown.title = r.title :=
  (setUpAs_refresh hrefresh).title

/-! ### Sizes -/

/-- **Told a size, a renderer fits it.** -/
theorem fits_resize {width height : Int} {resized : Renderer} {calls : List HostCall}
    (h : r.resize width height = (.ok resized, calls)) (hsides : 0 ≤ width * height) :
    resized.Fits (width * height).toNat := by
  unfold resize at h
  rcases hdevice : r.device with - | w | t
  · rw [hdevice] at h
    cases h
    exact fun w hw ↦ by cases hw
  · rw [hdevice] at h
    dsimp only at h
    rcases hlength : Extent.ofInt r.limit (width * height * 3) with failure | length
    · rw [hlength] at h
      cases h
    · rw [hlength] at h
      cases h
      intro w' hw'
      obtain rfl := RendererDevice.window.inj hw'
      have hsize := Extent.eq_of_ofInt hlength
      show (Array.replicate length 0).size = 3 * (width * height).toNat
      rw [Array.size_replicate]
      omega
  · rw [hdevice] at h
    cases h
    exact fun w hw ↦ by cases hw

/-- A title does not touch the device. -/
theorem device_setTitle {title : String} {titled : Renderer} {calls : List HostCall}
    (h : r.setTitle title = (.ok titled, calls)) : titled.device = r.device := by
  unfold setTitle at h
  dsimp only at h
  split at h
  · cases h
    rfl
  · cases h
    rfl
  · split at h <;> cases h
    rfl

/-! ### Titles -/

/-- A terminal has an extent for the width of its title. -/
def TakesTitles (r : Renderer) : Prop :=
  ∀ t, r.device = .terminal t → Extent.check r.limit (r.width * r.scale) = .ok ()

/-- A renderer that takes titles shows every title. -/
theorem exists_setTitle (h : r.TakesTitles) (title : String) :
    ∃ calls, r.setTitle title = (.ok { r with title }, calls) := by
  unfold setTitle
  rcases hdevice : r.device with - | w | t
  · exact ⟨_, rfl⟩
  · exact ⟨_, rfl⟩
  · dsimp only
    rw [h t hdevice]
    exact ⟨_, rfl⟩

/-- **A renderer that showed a title** takes titles. -/
theorem takesTitles_of_setTitle {title : String} {titled : Renderer} {calls : List HostCall}
    (h : r.setTitle title = (.ok titled, calls)) : titled.TakesTitles := by
  unfold setTitle at h
  rcases hdevice : r.device with - | w | t
  · rw [hdevice] at h
    cases h
    exact fun t' ht ↦ by cases ht
  · rw [hdevice] at h
    cases h
    exact fun t' ht ↦ by cases ht
  · rw [hdevice] at h
    dsimp only at h
    split at h
    · cases h
    · rename_i hcheck
      cases h
      exact fun _ _ ↦ hcheck

/-- The width of the title and the limit of the host are part of the set-up. -/
theorem SetUpAs.takesTitles (h : r.SetUpAs s) (htitles : r.TakesTitles) : s.TakesTitles := by
  intro terminal hterminal
  rw [h.limit, h.width, h.scale]
  rcases hdevice : r.device with - | w | t
  · cases hterminal.symm.trans (h.headless hdevice)
  · obtain ⟨picture, hpicture⟩ := h.window w hdevice
    cases hterminal.symm.trans hpicture
  · exact htitles t hdevice

/-- Showing a display leaves the width of the title. -/
theorem takesTitles_refresh {shown : Renderer} {calls : List HostCall} (h : r.TakesTitles)
    (hrefresh : r.refresh d = (.ok shown, calls)) : shown.TakesTitles :=
  (setUpAs_refresh hrefresh).takesTitles h

end Renderer

end ChipEight
