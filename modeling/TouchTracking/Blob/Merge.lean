import TouchTracking.Blob.Basic

/-! Collecting boxes so that no two of them overlap. A new box is joined with every kept box that it
overlaps, and the growing hull may reach further ones; the result stands where the earliest of the
joined boxes stood, or last when there was none. -/
namespace TouchTracking.Blob

/-- A hull that is still growing, the boxes it has not reached, and the place it will take. -/
structure Growth where
  kept : List Blob
  hull : Blob
  slot : Option Nat

/-- Joins the first kept box that overlaps the hull. -/
def Growth.absorb (growth : Growth) (index : Nat) (absorbed : Blob) : Growth where
  kept := growth.kept.eraseIdx index
  hull := growth.hull.hull absorbed
  slot := some (match growth.slot with | none => index | some slot => min slot index)

/-- Grows the hull until it overlaps no kept box. -/
def Growth.run (growth : Growth) : Growth :=
  match growth.kept.findIdx? (·.overlaps growth.hull) with
  | none => growth
  | some index =>
    if h : index < growth.kept.length then
      (growth.absorb index growth.kept[index]).run
    else growth
termination_by growth.kept.length
decreasing_by
  simp only [Growth.absorb, List.length_eraseIdx, h, if_true]
  omega

/-- Adds a box to a list of boxes that do not overlap. -/
def merge (kept : List Blob) (blob : Blob) : List Blob :=
  let growth := Growth.run ⟨kept, blob, none⟩
  match growth.slot with
  | none => growth.kept ++ [growth.hull]
  | some slot => growth.kept.insertIdx slot growth.hull

end TouchTracking.Blob
