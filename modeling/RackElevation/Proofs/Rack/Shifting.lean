import RackElevation.Proofs.Rack.Stacking

/-!
# Shifting of slots

What lies below some slots counts for them only by the cursor that it leaves.  So two racks with the
same upper slots show them alike: up to the first pinned slot they are shifted by the distance of
the cursors, and from there on they lie on the same units.
-/

namespace RackElevation

/-- A placement moved up by some units. -/
def Placement.shift (d : ℤ) (p : Placement) : Placement :=
  { p with offset := p.offset + d }

theorem Placement.stop_shift (d : ℤ) (p : Placement) : (p.shift d).stop = p.stop + d := by
  show p.offset + d + p.span = p.offset + p.span + d
  omega

/-- Slots are placed on the ones below them. -/
theorem placementsFrom_append (cursor : ℤ) (below above : List Slot) :
    placementsFrom cursor (below ++ above) = placementsFrom cursor below ++
      placementsFrom (cursorAfter cursor (placementsFrom cursor below)) above := by
  induction below generalizing cursor with
  | nil => rfl
  | cons slot below ih =>
      rw [List.cons_append, placementsFrom, ih, placementsFrom, cursorAfter_cons, List.cons_append]

section Slots

variable {slot : Slot}

/-- A pinned slot does not look at the cursor. -/
theorem Slot.placed_of_pinned {n : ℤ} (h : slot.usablePosition = .ok (some n))
    (cursor cursor' : ℤ) : slot.placed cursor = slot.placed cursor' := by
  rw [placed, placed, (usablePosition_eq_ok.1 h).2]
  rfl

/-- A slot without a usable position goes with the cursor. -/
theorem Slot.placed_of_free (h : slot.usablePosition = .ok none) (cursor cursor' : ℤ) :
    slot.placed cursor = (slot.placed cursor').shift (cursor - cursor') := by
  rw [Placement.shift, offset_placed_of_free h, placed, (usablePosition_eq_ok.1 h).2, placed,
    Int.add_comm, Int.sub_add_cancel]
  rfl

end Slots

/-- Slots placed from two cursors lie as far apart as the cursors, up to the first pinned one, and
from there on they lie on the same units. -/
theorem exists_shift_placementsFrom {slots : List Slot} (h : ∀ slot ∈ slots, slot.IsReadable)
    (cursor cursor' : ℤ) :
    ∃ free rest,
      placementsFrom cursor slots = free.map (·.shift (cursor - cursor')) ++ rest ∧
        placementsFrom cursor' slots = free ++ rest ∧
          (∀ p ∈ free, p.slot.usablePosition = .ok none) ∧ ∀ p ∈ rest.head?, p.slot.IsPinned := by
  induction slots generalizing cursor cursor' with
  | nil => exact ⟨[], [], rfl, rfl, fun _ hp => absurd hp List.not_mem_nil,
      fun _ hp => absurd hp (Option.not_mem_none _)⟩
  | cons slot slots ih =>
      obtain ⟨hslot, hslots⟩ := List.forall_mem_cons.1 h
      rcases hslot.free_or_pinned with hfree | ⟨n, hn⟩
      · have hplaced := Slot.placed_of_free hfree cursor cursor'
        have hstop : (slot.placed cursor).stop - (slot.placed cursor').stop = cursor - cursor' := by
          rw [hplaced, Placement.stop_shift]
          omega
        obtain ⟨free, rest, hrow, hrow', hunpinned, hpinned⟩ :=
          ih hslots (slot.placed cursor).stop (slot.placed cursor').stop
        refine ⟨slot.placed cursor' :: free, rest, ?_, ?_, ?_, hpinned⟩
        · rw [placementsFrom, hrow, hstop, hplaced, List.map_cons, List.cons_append]
        · rw [placementsFrom, hrow', List.cons_append]
        · exact List.forall_mem_cons.2 ⟨hfree, hunpinned⟩
      · -- the pin makes the cursors equal
        refine ⟨[], placementsFrom cursor (slot :: slots), rfl, ?_, ?_, ?_⟩
        · rw [placementsFrom, placementsFrom, Slot.placed_of_pinned hn cursor' cursor,
            List.nil_append]
        · exact fun _ hp => absurd hp List.not_mem_nil
        · intro p hp
          obtain rfl := Option.some.inj hp
          exact ⟨n, hn⟩

/-- The upper slots of a rack whose lower slots are replaced are shifted by the distance of the
cursors that the lower slots leave, up to the first pinned one, and the slots from there on stay.
So a gap put in below them lifts them by its units. -/
theorem placeSlots_append {upper lower lower' : List Slot} {ps ps' : List Placement}
    (h : placeSlots (upper ++ lower) = .ok ps) (h' : placeSlots (upper ++ lower') = .ok ps') :
    ∃ low low' free rest, placeSlots lower = .ok low ∧ placeSlots lower' = .ok low' ∧
      ps = low ++ (free.map (·.shift (cursorAfter 0 low - cursorAfter 0 low')) ++ rest) ∧
      ps' = low' ++ (free ++ rest) ∧ (free ++ rest).map Placement.slot = upper.reverse ∧
      (∀ p ∈ free, p.slot.usablePosition = .ok none) ∧ (∀ p ∈ rest.head?, p.slot.IsPinned) ∧
      ∀ gap, lower = .gap gap :: lower' → (Slot.gap gap).usablePosition = .ok none →
        ∃ p, p.slot = .gap gap ∧ low = low' ++ [p] ∧
          ps = low' ++ p :: (free.map (·.shift p.span) ++ rest) := by
  obtain ⟨hreadable, rfl⟩ := placeSlots_eq_ok.1 h
  obtain ⟨hreadable', rfl⟩ := placeSlots_eq_ok.1 h'
  obtain ⟨hupper, hlower⟩ := List.forall_mem_append.1 hreadable
  have hlower' := (List.forall_mem_append.1 hreadable').2
  have hreverse : ∀ slot ∈ upper.reverse, slot.IsReadable :=
    fun slot hslot => hupper slot (List.mem_reverse.1 hslot)
  obtain ⟨free, rest, hhigh, hhigh', hfree, hpinned⟩ := exists_shift_placementsFrom hreverse
    (cursorAfter 0 (placements lower)) (cursorAfter 0 (placements lower'))
  have happend (below : List Slot) : placements (upper ++ below) =
      placements below ++ placementsFrom (cursorAfter 0 (placements below)) upper.reverse := by
    rw [placements, List.reverse_append, placementsFrom_append, placements]
  refine ⟨placements lower, placements lower', free, rest, placeSlots_eq_ok.2 ⟨hlower, rfl⟩,
    placeSlots_eq_ok.2 ⟨hlower', rfl⟩, ?_, ?_, ?_, hfree, hpinned, ?_⟩
  · rw [happend, hhigh]
  · rw [happend, hhigh']
  · rw [← hhigh', map_slot_placementsFrom]
  · rintro gap rfl hgap
    -- the gap starts where the slots below it end
    have hlow : placements (.gap gap :: lower') = placements lower' ++
        [(Slot.gap gap).placed (cursorAfter 0 (placements lower'))] := by
      rw [placements, List.reverse_cons, placementsFrom_append, placements]
      rfl
    have hdistance : cursorAfter 0 (placements (.gap gap :: lower')) -
        cursorAfter 0 (placements lower') =
          ((Slot.gap gap).placed (cursorAfter 0 (placements lower'))).span := by
      rw [hlow, cursorAfter, List.getLast?_concat, Option.map_some, Option.getD_some,
        Placement.stop, Slot.offset_placed_of_free hgap]
      omega
    refine ⟨_, rfl, hlow, ?_⟩
    rw [happend, hhigh, hdistance, hlow, List.append_assoc, List.singleton_append]

/-- A pinned switch between two servers without positions. -/
def pinnedUpper : List Slot := [
  .device { kind := "server", height := some "2" },
  .device { kind := "switch", position := some "9" },
  .device { kind := "server" }]

theorem placeSlots_append_pinnedUpper :
    ∃ ps ps', placeSlots (pinnedUpper ++ [.gap { height := some "3" }, .gap {}]) = .ok ps ∧
      placeSlots (pinnedUpper ++ [.gap {}]) = .ok ps' ∧
      ps.map Placement.offset = [0, 1, 4, 8, 9] ∧ ps'.map Placement.offset = [0, 1, 8, 9] ∧
      ∃ low' free rest p, placeSlots [.gap {}] = .ok low' ∧
        p.slot = .gap { height := some "3" } ∧
        ps = low' ++ p :: (free.map (·.shift p.span) ++ rest) ∧ ps' = low' ++ (free ++ rest) := by
  have hlifted : (placeSlots (pinnedUpper ++ [.gap { height := some "3" }, .gap {}])).map
      (·.map Placement.offset) = .ok [0, 1, 4, 8, 9] := by decide +kernel
  have hplain : (placeSlots (pinnedUpper ++ [.gap {}])).map (·.map Placement.offset) =
      .ok [0, 1, 8, 9] := by decide +kernel
  obtain ⟨ps, hps, hoffsets⟩ := map_eq_ok.1 hlifted
  obtain ⟨ps', hps', hoffsets'⟩ := map_eq_ok.1 hplain
  obtain ⟨_, low', free, rest, -, hlow', -, hrow', -, -, -, hgap⟩ := placeSlots_append hps hps'
  obtain ⟨p, hp, -, hrow⟩ := hgap { height := some "3" } rfl (by decide +kernel)
  exact ⟨ps, ps', hps, hps', hoffsets, hoffsets', low', free, rest, p, hlow', hp, hrow, hrow'⟩

end RackElevation
