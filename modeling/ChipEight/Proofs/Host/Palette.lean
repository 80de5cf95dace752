import ChipEight.Host.Renderer
import ChipEight.Proofs.Text.Numeral
import Mathlib.Data.List.Forall2

/-!
# Which palettes are accepted

A palette that a window is given supplies at most two numbers, each in a field of six characters
(`Palette.Supplies`). Six characters hold no number of more than three bytes, so a number that is
not below zero has three parts that are bytes (`Colour.ofInt_eq_ok`), and the two colours of the
window are the numbers supplied, with the usual ones in the places that are left
(`Palette.parse_of_supplies`).

Six characters may begin with a minus sign, though. `Renderer.window_of_palette` says what becomes
of a window in each of the three cases: the palette supplies numbers that are colours, the palette
supplies a number below zero, which fails as no byte and is not reported as a bad palette, and the
palette supplies no numbers, which is reported.
-/

namespace ChipEight

/-! ### Colours -/

namespace Colour

/-- The colour has the parts of a number: its lowest byte is the blue part, the next one the green
part, and what is left the red part. -/
structure HasValue (c : Colour) (v : Int) : Prop where
  red : c.red.toNat = v / 65536
  green : c.green.toNat = v / 256 % 256
  blue : c.blue.toNat = v % 256

/-- A number of three bytes is a colour. -/
theorem ofInt_eq_ok {v : Int} (hnonneg : 0 ≤ v) (hlt : v < 0x1000000) :
    ∃ c, ofInt v = .ok c ∧ c.HasValue v := by
  obtain ⟨n, rfl⟩ := Int.eq_ofNat_of_zero_le hnonneg
  have hbytes : ofInt (n : Int) =
      .ok ⟨UInt8.ofNat (n / 65536), UInt8.ofNat (n / 256), UInt8.ofNat n⟩ :=
    if_pos ⟨hnonneg, hlt⟩
  refine ⟨_, hbytes, ?_, ?_, ?_⟩
  · simp only [UInt8.toNat_ofNat']
    omega
  · simp only [UInt8.toNat_ofNat']
    omega
  · simp only [UInt8.toNat_ofNat']
    omega

/-- A number below zero is no colour: the first of its parts is no byte. -/
theorem ofInt_eq_error {v : Int} (h : v < 0) : ofInt v = .error (.notAByte (v / 65536)) :=
  if_neg fun hcolour ↦ Int.not_lt.2 hcolour.1 h

end Colour

namespace Palette

variable {field text : String} {v : Int} {values : List Int} {failure : Failure}

/-! ### The numbers of a palette -/

/-- A field of six characters supplies the number written there. -/
def SuppliesAt (field : String) (v : Int) : Prop :=
  field.length = 6 ∧ Numeral.read? .sixteen field = some v

/-- A text supplies the numbers of its fields, which are at most two. -/
structure Supplies (text : String) (values : List Int) : Prop where
  /-- Each field supplies its number. -/
  supplied : List.Forall₂ SuppliesAt (Fields.split ',' text) values
  /-- There are no more fields than colours. -/
  count : (Fields.split ',' text).length ≤ 2

/-- A number supplied has at most three bytes. -/
theorem SuppliesAt.lt (h : SuppliesAt field v) : v < 0x1000000 := by
  have hpower := Numeral.read?_lt h.2
  rwa [h.1] at hpower

theorem fieldValue_eq_ok_iff : fieldValue field = .ok v ↔ SuppliesAt field v := by
  unfold fieldValue SuppliesAt
  split
  · simp [*]
  · rename_i hlength
    rw [not_not] at hlength
    rcases Numeral.read? .sixteen field with - | n
    · simp
    · simp [hlength]

/-- A field that supplies no number is reported. -/
theorem exists_problem_of_fieldValue (h : fieldValue field = .error failure) :
    ∃ problem, failure = .palette problem := by
  unfold fieldValue at h
  split at h
  · exact ⟨_, (Except.error.inj h).symm⟩
  · split at h
    · cases h
    · exact ⟨_, (Except.error.inj h).symm⟩

/-- The fields are read one after another, and each of them has to supply a number. -/
theorem mapM_fieldValue_eq_ok_iff {fields : List String} :
    fields.mapM fieldValue = .ok values ↔ List.Forall₂ SuppliesAt fields values := by
  induction fields generalizing values with
  | nil =>
    rw [List.mapM_nil, List.forall₂_nil_left_iff]
    exact ⟨fun h ↦ (Except.ok.inj h).symm, fun h ↦ h ▸ rfl⟩
  | cons field rest ih =>
    rw [List.mapM_cons, List.forall₂_cons_left_iff]
    simp only [← fieldValue_eq_ok_iff, ← ih]
    rcases fieldValue field with failure | v
    · simp [bind, Except.bind]
    · rcases rest.mapM fieldValue with failure | vs
      · simp [bind, Except.bind]
      · simp [bind, Except.bind, pure, Except.pure, eq_comm]

/-- A palette is refused at the first field that supplies no number. -/
theorem exists_problem_of_mapM_fieldValue {fields : List String}
    (h : fields.mapM fieldValue = .error failure) : ∃ problem, failure = .palette problem := by
  induction fields with
  | nil => cases h
  | cons field rest ih =>
    rw [List.mapM_cons] at h
    rcases hfield : fieldValue field with other | v
    · rw [hfield] at h
      cases h
      exact exists_problem_of_fieldValue hfield
    · rw [hfield] at h
      rcases hrest : rest.mapM fieldValue with other | vs
      · rw [hrest] at h
        cases h
        exact ih hrest
      · rw [hrest] at h
        cases h

/-! ### The colours of a palette -/

/-- A palette of at most two fields has the numbers of its fields, and the usual ones in the places
that are left. -/
theorem parse_eq (text : String) :
    parse (some text) =
      if (Fields.split ',' text).length > 2 then .error (.palette .tooMany)
      else (Fields.split ',' text).mapM fieldValue >>= fun given ↦
        ofValues (given.getD 0 0x222222) (given.getD 1 0xDDDDDD) := by
  have hplaces (given : List Int) :
      (given ++ usual.drop given.length).getD 0 0 = given.getD 0 0x222222 ∧
        (given ++ usual.drop given.length).getD 1 0 = given.getD 1 0xDDDDDD := by
    rcases given with - | ⟨background, - | ⟨foreground, rest⟩⟩
    · exact ⟨rfl, rfl⟩
    · exact ⟨rfl, rfl⟩
    · exact ⟨rfl, rfl⟩
  show (if (Fields.split ',' text).length > 2 then _ else
    (Fields.split ',' text).mapM fieldValue >>= _) = _
  split
  · rfl
  · simp only [hplaces]

theorem parse_of_supplies (h : Supplies text values) :
    parse (some text) = ofValues (values.getD 0 0x222222) (values.getD 1 0xDDDDDD) := by
  rw [parse_eq, if_neg (Nat.not_lt.2 h.count), mapM_fieldValue_eq_ok_iff.2 h.supplied]
  rfl

/-- A palette that supplies no numbers is reported. -/
theorem parse_of_not_supplies (h : ∀ values, ¬ Supplies text values) :
    ∃ problem, parse (some text) = .error (.palette problem) := by
  rw [parse_eq]
  split
  · exact ⟨_, rfl⟩
  · rename_i hcount
    rcases hfields : (Fields.split ',' text).mapM fieldValue with failure | values
    · obtain ⟨problem, rfl⟩ := exists_problem_of_mapM_fieldValue hfields
      exact ⟨problem, rfl⟩
    · exact absurd ⟨mapM_fieldValue_eq_ok_iff.1 hfields, Nat.le_of_not_lt hcount⟩ (h values)

/-- Every number of a palette has at most three bytes. -/
theorem Supplies.lt (h : Supplies text values) : ∀ v ∈ values, v < 0x1000000 := by
  obtain ⟨hsupplied, -⟩ := h
  generalize Fields.split ',' text = fields at hsupplied
  induction hsupplied with
  | nil => exact fun _ hv ↦ absurd hv List.not_mem_nil
  | cons hfield _ ih => exact List.forall_mem_cons.2 ⟨hfield.lt, ih⟩

/-- The number in a place is one of those supplied or the usual one. -/
theorem getD_mem_or_eq (values : List Int) (place : Nat) (usual : Int) :
    values.getD place usual ∈ values ∨ values.getD place usual = usual := by
  rw [List.getD_eq_getElem?_getD]
  rcases hplace : values[place]? with - | v
  · exact .inr rfl
  · exact .inl (List.mem_of_getElem? hplace)

/-- A number supplied is in one of the two places. -/
theorem Supplies.eq_getD (h : Supplies text values) (hv : v ∈ values) :
    v = values.getD 0 0x222222 ∨ v = values.getD 1 0xDDDDDD := by
  have hcount : values.length ≤ 2 := h.supplied.length_eq ▸ h.count
  obtain ⟨place, hplace⟩ := List.mem_iff_getElem?.1 hv
  have hlt := (List.getElem?_eq_some_iff.1 hplace).1
  rcases place with - | - | place
  · exact .inl (by rw [List.getD_eq_getElem?_getD, hplace, Option.getD_some])
  · exact .inr (by rw [List.getD_eq_getElem?_getD, hplace, Option.getD_some])
  · omega

/-- The number in a place is a colour if it is not below zero, as the usual ones are. -/
theorem Supplies.exists_colour (h : Supplies text values) (place : Nat) (usual : Int)
    (husual : 0 ≤ usual ∧ usual < 0x1000000) (hnonneg : 0 ≤ values.getD place usual) :
    ∃ c, Colour.ofInt (values.getD place usual) = .ok c ∧
      c.HasValue (values.getD place usual) := by
  refine Colour.ofInt_eq_ok hnonneg ?_
  obtain hmem | heq := getD_mem_or_eq values place usual
  · exact h.lt _ hmem
  · rw [heq]
    exact husual.2

/-- **Numbers that are colours.** Where no number supplied is below zero, the colours have the
numbers supplied, and the usual ones in the places that are left. -/
theorem exists_palette_of_supplies (h : Supplies text values) (hnonneg : ∀ v ∈ values, 0 ≤ v) :
    ∃ p, parse (some text) = .ok p ∧ p.background.HasValue (values.getD 0 0x222222) ∧
      p.foreground.HasValue (values.getD 1 0xDDDDDD) := by
  have hplace (place : Nat) (usual : Int) (husual : 0 ≤ usual) : 0 ≤ values.getD place usual :=
    (getD_mem_or_eq values place usual).elim (hnonneg _) fun heq ↦ husual.trans_eq heq.symm
  obtain ⟨background, hback, hbackground⟩ :=
    h.exists_colour 0 0x222222 (by decide) (hplace 0 _ (by decide))
  obtain ⟨foreground, hfore, hforeground⟩ :=
    h.exists_colour 1 0xDDDDDD (by decide) (hplace 1 _ (by decide))
  refine ⟨⟨background, foreground⟩, ?_, hbackground, hforeground⟩
  rw [parse_of_supplies h, ofValues, hback, hfore]
  rfl

/-- **A number below zero** is found out after all fields were read, and fails as no byte. -/
theorem exists_notAByte_of_supplies (h : Supplies text values) (hneg : ∃ v ∈ values, v < 0) :
    ∃ v ∈ values, v < 0 ∧ parse (some text) = .error (.notAByte (v / 65536)) := by
  obtain ⟨v, hv, hvneg⟩ := hneg
  rw [parse_of_supplies h, ofValues]
  by_cases hback : values.getD 0 0x222222 < 0
  · have hmem := (getD_mem_or_eq values 0 0x222222).resolve_right fun heq ↦ by omega
    refine ⟨_, hmem, hback, ?_⟩
    rw [Colour.ofInt_eq_error hback]
    rfl
  · -- The background is a colour, so the number below zero is the foreground.
    obtain ⟨background, hbackground, -⟩ := h.exists_colour 0 0x222222 (by decide) (Int.not_lt.1 hback)
    have hfore : v = values.getD 1 0xDDDDDD :=
      (h.eq_getD hv).resolve_left fun heq ↦ hback (heq ▸ hvneg)
    refine ⟨v, hv, hvneg, ?_⟩
    rw [hbackground, ← hfore, Colour.ofInt_eq_error hvneg]
    rfl

end Palette

/-! ### Windows -/

namespace Renderer

open Palette (Supplies)

/-- A window of some width has the colours of its palette. -/
theorem create_window_eq (scale? : Option Int) (text : String) (mode : Setting Int)
    (host : TerminalHost) :
    (create .window ⟨.ofOption scale?, .given text, mode⟩ host).1 =
      (Palette.parse (some text)).map fun palette ↦
        fresh (.window ⟨(scale?.getD 512, Int.fdiv (scale?.getD 512) 2), palette, #[]⟩)
          (scale?.getD 512) programName := by
  cases scale? with
  | none => rfl
  | some scale => rfl

/-- **What becomes of a window with a palette.** If the palette supplies numbers, at most two, none
of which is below zero, the window is up, and dark pixels have the first number and lit ones the
second, where the usual number stands for one that is not supplied. If it supplies one below zero,
this is found out when the colours are made, and it is not reported as a bad palette. Any other
palette is reported. -/
theorem window_of_palette (scale? : Option Int) (text : String) (mode : Setting Int)
    (host : TerminalHost) :
    let made := (create .window ⟨.ofOption scale?, .given text, mode⟩ host).1
    (∀ values, Supplies text values → (∀ v ∈ values, 0 ≤ v) →
      ∃ r w, made = .ok r ∧ r.device = .window w ∧
        (w.palette.colour false).HasValue (values.getD 0 0x222222) ∧
        (w.palette.colour true).HasValue (values.getD 1 0xDDDDDD)) ∧
    (∀ values, Supplies text values → (∃ v ∈ values, v < 0) →
      ∃ v ∈ values, v < 0 ∧ made = .error (.notAByte (v / 65536))) ∧
    ((∀ values, ¬ Supplies text values) → ∃ problem, made = .error (.palette problem)) := by
  intro made
  have hmade : made = _ := create_window_eq scale? text mode host
  rw [hmade]
  refine ⟨fun values hsupplies hnonneg ↦ ?_, fun values hsupplies hneg ↦ ?_, fun hnone ↦ ?_⟩
  · obtain ⟨p, hparse, hbackground, hforeground⟩ :=
      Palette.exists_palette_of_supplies hsupplies hnonneg
    rw [hparse]
    exact ⟨_, _, rfl, rfl, hbackground, hforeground⟩
  · obtain ⟨v, hv, hvneg, hparse⟩ := Palette.exists_notAByte_of_supplies hsupplies hneg
    rw [hparse]
    exact ⟨v, hv, hvneg, rfl⟩
  · obtain ⟨problem, hparse⟩ := Palette.parse_of_not_supplies hnone
    rw [hparse]
    exact ⟨problem, rfl⟩

/-- A sign among the six characters of a colour leads to a failure that is not one of the
palette. -/
theorem not_reported_of_sign :
    ¬ ((∃ r, (create .window ⟨.absent, .given "-00001", .absent⟩
          ⟨[], false, fun _ ↦ none⟩).1 = .ok r) ∨
      ∃ problem, (create .window ⟨.absent, .given "-00001", .absent⟩
          ⟨[], false, fun _ ↦ none⟩).1 = .error (.palette problem)) := by
  have hfails (host : TerminalHost) : (create .window ⟨.absent, .given "-00001", .absent⟩ host).1 =
      .error (.notAByte (-1)) := rfl
  rw [hfails]
  simp

end Renderer

end ChipEight
