import RackElevation.Proofs.Number.Numeral
import RackElevation.Proofs.Outcome
import RackElevation.Rack.Placement

/-!
# Placements of readable slots

Placing slots fails only on a position or height that is not readable.  The placements of readable
slots are those of a cursor that moves over the integers their texts start with.
-/

namespace RackElevation

/-- A slot whose position and height are readable. -/
structure Slot.IsReadable (slot : Slot) : Prop where
  position : RackElevation.IsReadable slot.position
  height : RackElevation.IsReadable slot.height

/-- A slot at the unit its position names, or at the cursor. -/
def Slot.placed (slot : Slot) (cursor : ℤ) : Placement where
  slot := slot
  offset := ((leadingInteger? slot.position).map (· - 1)).getD cursor
  span := (leadingInteger? slot.height).getD 1

/-- Slots in the order of placing, from a cursor on. -/
def placementsFrom (cursor : ℤ) : List Slot → List Placement
  | [] => []
  | slot :: slots => slot.placed cursor :: placementsFrom (slot.placed cursor).stop slots

/-- The slots of a rack in the order of placing. -/
def placements (slots : List Slot) : List Placement :=
  placementsFrom 0 slots.reverse

theorem Slot.placeAt_eq_ok {slot : Slot} {cursor : ℤ} {p : Placement} :
    slot.placeAt cursor = .ok p ↔ slot.IsReadable ∧ slot.placed cursor = p := by
  simp only [Slot.placeAt, Slot.usablePosition, Slot.usableHeight, bind_eq_ok, pure_eq_ok,
    leadingPositive?_eq_ok]
  constructor
  · rintro ⟨_, ⟨hposition, rfl⟩, _, ⟨hheight, rfl⟩, rfl⟩
    exact ⟨⟨hposition, hheight⟩, rfl⟩
  · rintro ⟨⟨hposition, hheight⟩, rfl⟩
    exact ⟨_, ⟨hposition, rfl⟩, _, ⟨hheight, rfl⟩, rfl⟩

theorem placeFrom_eq_ok {cursor : ℤ} {slots : List Slot} {ps : List Placement} :
    placeFrom cursor slots = .ok ps ↔
      (∀ slot ∈ slots, slot.IsReadable) ∧ placementsFrom cursor slots = ps := by
  induction slots generalizing cursor ps with
  | nil =>
      have hnil : ∀ slot ∈ ([] : List Slot), slot.IsReadable :=
        fun _ hslot => absurd hslot List.not_mem_nil
      exact ⟨fun h => ⟨hnil, Except.ok.inj h⟩, fun h => congrArg Except.ok h.2⟩
  | cons slot slots ih =>
      simp only [placeFrom, bind_eq_ok, pure_eq_ok, Slot.placeAt_eq_ok, ih, List.forall_mem_cons]
      constructor
      · rintro ⟨_, ⟨hslot, rfl⟩, _, ⟨hslots, rfl⟩, rfl⟩
        exact ⟨⟨hslot, hslots⟩, rfl⟩
      · rintro ⟨⟨hslot, hslots⟩, rfl⟩
        exact ⟨_, ⟨hslot, rfl⟩, _, ⟨hslots, rfl⟩, rfl⟩

/-- The slots of a rack are placed when all of them are readable. -/
theorem placeSlots_eq_ok {slots : List Slot} {ps : List Placement} :
    placeSlots slots = .ok ps ↔ (∀ slot ∈ slots, slot.IsReadable) ∧ placements slots = ps := by
  rw [placeSlots, placeFrom_eq_ok, placements]
  simp only [List.mem_reverse]

theorem Slot.span_placed_pos (slot : Slot) (cursor : ℤ) : 0 < (slot.placed cursor).span := by
  rw [placed]
  cases hheight : leadingInteger? slot.height with
  | none => exact Int.one_pos
  | some n => exact leadingInteger?_pos hheight

/-- Every placement takes a unit. -/
theorem span_pos_of_mem_placementsFrom {cursor : ℤ} {slots : List Slot} {p : Placement}
    (h : p ∈ placementsFrom cursor slots) : 0 < p.span := by
  induction slots generalizing cursor with
  | nil => exact absurd h List.not_mem_nil
  | cons slot slots ih =>
      rcases List.mem_cons.1 h with rfl | h
      · exact slot.span_placed_pos cursor
      · exact ih h

/-- Every slot is placed. -/
theorem map_slot_placementsFrom (cursor : ℤ) (slots : List Slot) :
    (placementsFrom cursor slots).map Placement.slot = slots := by
  induction slots generalizing cursor with
  | nil => rfl
  | cons slot slots ih => rw [placementsFrom, List.map_cons, ih, Slot.placed]

/-- Only slots are placed. -/
theorem slot_mem_of_mem_placements {slots : List Slot} {p : Placement}
    (h : p ∈ placements slots) : p.slot ∈ slots := by
  have hmem : p.slot ∈ (placements slots).map Placement.slot := List.mem_map_of_mem h
  rw [placements, map_slot_placementsFrom] at hmem
  exact List.mem_reverse.1 hmem

end RackElevation
