/-!
# Text fitted to a width

A text is cut or filled with spaces to a width. A width below zero leaves off that many characters
at the end instead.

## Main definitions

* `Fitted.render`: a text fitted to a width.
-/

namespace ChipEight.Fitted

/-- The characters of a text that a width leaves. -/
def cut (width : Int) (cs : List Char) : List Char :=
  if width < 0 then cs.take (cs.length - width.natAbs) else cs.take width.toNat

/-- A text fitted to a width. -/
def render (width : Int) (text : String) : String :=
  let kept := cut width text.toList
  String.ofList (kept ++ List.replicate (width.toNat - kept.length) ' ')

/-- A text fitted to a width of zero or above has that many characters. -/
theorem length_render {width : Int} (nonneg : 0 ≤ width) (text : String) :
    (render width text).length = width.toNat := by
  have notNeg : ¬ width < 0 := by omega
  simp only [render, cut, notNeg, if_false, String.length_ofList, List.length_append,
    List.length_take, List.length_replicate]
  omega

end ChipEight.Fitted
