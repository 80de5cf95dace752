import ChipEight.Proofs.Display.Drawing
import Mathlib.Algebra.Ring.Parity
import Mathlib.Data.List.Nodup

/-!
# Flipping pixels in turn

Drawing flips pixels one after another, and a position may come up more than once. What is left of a
pixel depends only on how often its position came up (`isLit_flipAll`), and whether a lit pixel was
flipped off depends on nothing more than that and the pixels in front (`flipAll_hit_iff`): some
pixel was lit and came up, or came up twice. Where no position comes up twice, the pixels in front
alone decide (`flipAll_hit_iff_of_nodup`).
-/

namespace ChipEight.Display

variable {d : Display} {position q : Nat} {positions : List Nat}

/-- A pixel after one flip. -/
theorem isLit_flip (hq : q < d.pixels.size) :
    (d.flip position).isLit q = if position = q then !d.isLit q else d.isLit q := by
  have hq' : q < (d.pixels.modify position not).size := by rwa [Array.size_modify]
  have hbefore : d.isLit q = d.pixels[q] := by simp [isLit, hq]
  have hafter : (d.flip position).isLit q = (d.pixels.modify position not)[q] := by
    simp [flip, isLit, hq]
  rw [hbefore, hafter, Array.getElem_modify hq']

/-- Outside the display nothing is lit. -/
theorem isLit_eq_false (hq : d.pixels.size ≤ q) : d.isLit q = false := by
  simp [isLit, Nat.not_lt.2 hq]

theorem lt_size_of_isLit (h : d.isLit q = true) : q < d.pixels.size := by
  by_contra hq
  rw [isLit_eq_false (Nat.not_lt.1 hq)] at h
  cases h

/-- One flip, and the report of the flips so far. -/
def flipInto (done : Bool × Display) (position : Nat) : Bool × Display :=
  (done.1 || done.2.isLit position, done.2.flip position)

theorem flipAll_eq (d : Display) (positions : List Nat) :
    d.flipAll positions = positions.foldl flipInto (false, d) := rfl

/-- The report of the flips so far is kept. -/
theorem foldl_flipInto (hit : Bool) (d : Display) (positions : List Nat) :
    positions.foldl flipInto (hit, d) =
      (hit || (d.flipAll positions).1, (d.flipAll positions).2) := by
  rw [flipAll_eq]
  induction positions generalizing hit d with
  | nil => simp
  | cons p rest ih =>
    show rest.foldl flipInto (hit || d.isLit p, d.flip p) =
      (hit || (rest.foldl flipInto (false || d.isLit p, d.flip p)).1,
        (rest.foldl flipInto (false || d.isLit p, d.flip p)).2)
    rw [ih, ih (false || d.isLit p)]
    simp [Bool.or_assoc]

/-- Flips after a first one. -/
theorem flipAll_cons (d : Display) (position : Nat) (rest : List Nat) :
    d.flipAll (position :: rest) =
      (d.isLit position || ((d.flip position).flipAll rest).1,
        ((d.flip position).flipAll rest).2) :=
  foldl_flipInto (false || d.isLit position) (d.flip position) rest

/-- **A pixel after flips in turn** is changed exactly if its position came up an odd number of
times. -/
theorem isLit_flipAll (hq : q < d.pixels.size) :
    (d.flipAll positions).2.isLit q = (d.isLit q ^^ decide (Odd (positions.count q))) := by
  induction positions generalizing d with
  | nil => simp [flipAll]
  | cons p rest ih =>
    have hq' : q < (d.flip p).pixels.size := by rwa [(sameSize_flip d p).pixels]
    rw [flipAll_cons, ih hq', isLit_flip hq, List.count_cons]
    by_cases hp : p = q
    · have hparity : decide (Odd (rest.count q + 1)) = !decide (Odd (rest.count q)) := by
        rw [← decide_not, decide_eq_decide]
        exact Nat.odd_add_one
      rw [if_pos hp, if_pos (beq_iff_eq.2 hp), hparity]
      cases d.isLit q <;> simp
    · rw [if_neg hp, if_neg (mt beq_iff_eq.1 hp), Nat.add_zero]

/-- A pixel after flips in turn, as a number: the parity of what it was and how often it came up. -/
theorem toNat_isLit_flipAll (hq : q < d.pixels.size) :
    ((d.flipAll positions).2.isLit q).toNat = ((d.isLit q).toNat + positions.count q) % 2 := by
  rw [isLit_flipAll hq]
  by_cases hodd : Odd (positions.count q)
  · have hmod := Nat.odd_iff.1 hodd
    cases d.isLit q <;> simp [hodd] <;> omega
  · have hmod := Nat.even_iff.1 (Nat.not_odd_iff_even.1 hodd)
    cases d.isLit q <;> simp [hodd] <;> omega

/-- **When flips in turn report a hit**: some pixel was lit in front and came up, or came up more
than once. -/
theorem flipAll_hit_iff :
    (d.flipAll positions).1 = true ↔
      ∃ q < d.pixels.size, 0 < positions.count q ∧ 2 ≤ (d.isLit q).toNat + positions.count q := by
  induction positions generalizing d with
  | nil => simp [flipAll]
  | cons p rest ih =>
    have hcount (q : Nat) : (p :: rest).count q = rest.count q + if p = q then 1 else 0 := by
      simp [List.count_cons]
    have hflip {q : Nat} (hq : q < d.pixels.size) : ((d.flip p).isLit q).toNat =
        if p = q then 1 - (d.isLit q).toNat else (d.isLit q).toNat := by
      rw [isLit_flip hq]
      split
      · cases d.isLit q <;> rfl
      · rfl
    rw [flipAll_cons, Bool.or_eq_true, ih, (sameSize_flip d p).pixels]
    -- A hit at the first flip, or a hit after it, where the pixel at `p` is turned around.
    constructor
    · rintro (hlit | ⟨q, hq, hpositive, htwo⟩)
      · refine ⟨p, lt_size_of_isLit hlit, ?_, ?_⟩
        · rw [hcount, if_pos rfl]
          omega
        · rw [hcount, if_pos rfl, hlit]
          show 2 ≤ 1 + (rest.count p + 1)
          omega
      · rw [hflip hq] at htwo
        refine ⟨q, hq, ?_, ?_⟩ <;> rw [hcount] <;> split_ifs at htwo ⊢ <;> omega
    · rintro ⟨q, hq, hpositive, htwo⟩
      rw [hcount] at hpositive htwo
      by_cases hlit : d.isLit p = true
      · exact .inl hlit
      · have hdark : p = q → (d.isLit q).toNat = 0 := by
          rintro rfl
          simp [hlit]
        refine .inr ⟨q, hq, ?_⟩
        rw [hflip hq]
        split_ifs at hpositive htwo ⊢ with hp
        · have hzero := hdark hp
          omega
        · omega

/-! ### Each position at most once -/

/-- A pixel after flips that do not come back to a position. -/
theorem isLit_flipAll_of_nodup (hnodup : positions.Nodup) (hq : q < d.pixels.size) :
    (d.flipAll positions).2.isLit q ≠ d.isLit q ↔ q ∈ positions := by
  rw [isLit_flipAll hq]
  by_cases hmem : q ∈ positions
  · rw [List.count_eq_one_of_mem hnodup hmem]
    simp [hmem]
  · rw [List.count_eq_zero_of_not_mem hmem]
    simp [hmem]

/-- A hit, where no position comes up twice: some pixel that came up was lit in front. -/
theorem flipAll_hit_iff_of_nodup (hnodup : positions.Nodup) :
    (d.flipAll positions).1 = true ↔ ∃ q ∈ positions, d.isLit q = true := by
  rw [flipAll_hit_iff]
  constructor
  · rintro ⟨q, -, hpositive, htwo⟩
    have hmem := List.count_pos_iff.1 hpositive
    rw [List.count_eq_one_of_mem hnodup hmem] at htwo
    rcases hlit : d.isLit q with - | -
    · rw [hlit] at htwo
      exact absurd htwo (by decide)
    · exact ⟨q, hmem, hlit⟩
  · rintro ⟨q, hmem, hlit⟩
    refine ⟨q, lt_size_of_isLit hlit, ?_, ?_⟩ <;>
      rw [List.count_eq_one_of_mem hnodup hmem]
    · exact Nat.one_pos
    · rw [hlit]
      exact Nat.le_refl 2

end ChipEight.Display
